import FluentBuilder.Proofs.Store.Obstacles

/-!
# Stores in which a file can be written alike

`writing_writeWhole` says which result the writing of a file has, by what stands in its way before. There
are four cases: a file stands where a directory is to be made, or a name is too long, or a directory stands
where the file is to be written, or else the file is written. So there are few things in a store on which
the result depends, and where they are the same (`Alike`), the writing has the same result
(`Alike.agree`). Only which of several names that are too long is reported may differ, because that depends
on the directories that were there.

Files that are written do not change these things for a file that is `Apart` from them
(`alike_of_extended`): none of the files is on the way to the other one, or beside it under the name of a
temporary file.
-/

namespace FluentBuilder

open Stateful

namespace Filing

open Store

variable {s s' : Store} {p q : Path} {place : Place} {paths : List Path}

/-! ### Stores that are alike -/

/-- In both stores the same is in the way of writing a file. -/
structure Alike (p : Path) (s s' : Store) : Prop where
  /-- The same files stand on the way. -/
  file_iff : ∀ place, place <+: p.parts.dropLast →
    ((∃ bytes, s'.node? place = some (.file bytes)) ↔ ∃ bytes, s.node? place = some (.file bytes))
  /-- The same names for temporary files are free. -/
  temporary_iff : ∀ n, s'.node? (temporaryPath p n).parts = none ↔ s.node? (temporaryPath p n).parts = none
  /-- A directory stands at the path of the file in both or in none. -/
  target_iff : s'.node? p.parts = some .directory ↔ s.node? p.parts = some .directory

namespace Alike

/-- It is the same the other way round. -/
theorem symm (h : Alike p s s') : Alike p s' s :=
  ⟨fun place hplace => (h.file_iff place hplace).symm, fun n => (h.temporary_iff n).symm, h.target_iff.symm⟩

/-- The same files are in the way. -/
theorem obstructed_iff (h : Alike p s s') : Obstructed s' p.parent place ↔ Obstructed s p.parent place :=
  ⟨fun hfile => ⟨hfile.path, hfile.front, hfile.short, (h.file_iff place hfile.front).mp hfile.file⟩,
    fun hfile => ⟨hfile.path, hfile.front, hfile.short, (h.file_iff place hfile.front).mpr hfile.file⟩⟩

/-- The same name is the first one that is free. -/
theorem first_iff (h : Alike p s s') {n : Nat} : First s' p n ↔ First s p n := by
  have hoccupied : ∀ k, Occupied s' p k ↔ Occupied s p k := fun k => by
    rw [Occupied, Occupied, Ne, Ne, h.temporary_iff]
  constructor
  · exact fun hfirst => ⟨fun hn => hfirst.free ((hoccupied n).mpr hn), fun k hk =>
      (hoccupied k).mp (hfirst.before k hk)⟩
  · exact fun hfirst => ⟨fun hn => hfirst.free ((hoccupied n).mp hn), fun k hk =>
      (hoccupied k).mpr (hfirst.before k hk)⟩

end Alike

/-- Writing one file is not in the way of writing another one. -/
structure Apart (p q : Path) : Prop where
  /-- The other file is not on the way. -/
  not_above : ¬ q.parts <+: p.parts.dropLast
  /-- No temporary file is on the way to the other file, or is that file. -/
  not_temporary : ∀ n, ¬ (temporaryPath p n).parts <+: q.parts
  /-- The file is not on the way to the other one. -/
  not_below : ¬ p.parts <+: q.parts.dropLast

/-- Writing a file is not in its own way. -/
theorem Apart.refl (hne : p.parts ≠ []) : Apart p p := by
  have hlength : p.parts.dropLast.length < p.parts.length := by
    have hpos := List.length_pos_iff.mpr hne
    rw [List.length_dropLast]
    omega
  refine ⟨fun h => absurd h.length_le (not_le.mpr hlength), fun n h => ?_,
    fun h => absurd h.length_le (not_le.mpr hlength)⟩
  -- Both have the same number of names, and the last ones are of different lengths.
  obtain ⟨front, last, hparts⟩ := List.eq_nil_or_concat p.parts |>.resolve_left hne
  rw [List.concat_eq_append] at hparts
  have heq := List.IsPrefix.eq_of_length h (by
    rw [temporaryPath_parts, List.length_append, List.length_dropLast, List.length_singleton]
    have hpos := List.length_pos_iff.mpr hne
    omega)
  rw [temporaryPath_parts, hparts, List.dropLast_concat] at heq
  have hname := congrArg (fun name => name.toList.length) (List.singleton_inj.mp (List.append_cancel_left heq))
  simp only [temporaryName, Path.name, hparts, List.getLastD_concat, String.toList_append,
    List.length_append] at hname
  simp at hname
  omega

/-- **Files that were written are not in the way of a file that is apart from them.** -/
theorem alike_of_extended (h : Extended paths s s') (hapart : ∀ q ∈ paths, Apart p q) : Alike p s s' := by
  refine ⟨fun place hplace => ?_, fun n => ?_, ?_⟩
  · have hextension := h.extension place
    generalize s.node? place = before, s'.node? place = after at hextension ⊢
    cases hextension with
    | same => rfl
    | directory => simp
    | file hq heq _ => exact absurd (heq ▸ hplace) (hapart _ hq).not_above
  · have hextension := h.extension (temporaryPath p n).parts
    generalize s.node? (temporaryPath p n).parts = before, s'.node? (temporaryPath p n).parts = after
      at hextension ⊢
    cases hextension with
    | same => rfl
    | directory hq hplace =>
      exact absurd (hplace.trans (List.dropLast_prefix _)) ((hapart _ hq).not_temporary n)
    | file hq heq _ => exact absurd (heq ▸ List.prefix_refl _) ((hapart _ hq).not_temporary n)
  · have hextension := h.extension p.parts
    generalize s.node? p.parts = before, s'.node? p.parts = after at hextension ⊢
    cases hextension with
    | same => rfl
    | directory hq hplace => exact absurd hplace (hapart _ hq).not_below
    | file _ _ hnode => simp [hnode]

/-! ### Results -/

/-- The results of writing a file, by what stands in its way. -/
inductive Writing (s : Store) (p : Path) : Except StoreFault Unit → Prop
  /-- A file stands where a directory is to be made. -/
  | obstructed {place : Place} (hfile : Obstructed s p.parent place) :
    Writing s p (.error (obstruction p.parent place))
  /-- A name is too long, perhaps that of the temporary file. -/
  | tooLong {path : String} (hfree : ∀ place, ¬ Obstructed s p.parent place)
    (hlong : Fits p.parent → ∀ n, First s p n → ¬ Fits (temporaryPath p n))
    (hpath : Fits p.parent → ∀ n, First s p n → path = (temporaryPath p n).render) :
    Writing s p (.error (.nameTooLong path))
  /-- A directory stands at the path. -/
  | directory {n : Nat} (hfree : ∀ place, ¬ Obstructed s p.parent place) (habove : Fits p.parent)
    (hfirst : First s p n) (hfits : Fits (temporaryPath p n)) (hnode : s.node? p.parts = some .directory) :
    Writing s p (.error (.replacesDirectory (temporaryPath p n).render p.render))
  /-- The file is written. -/
  | written {n : Nat} (hfree : ∀ place, ¬ Obstructed s p.parent place) (habove : Fits p.parent)
    (hfirst : First s p n) (hfits : Fits (temporaryPath p n)) (hnode : s.node? p.parts ≠ some .directory) :
    Writing s p (.ok ())

/-- Two results agree, but for which name is too long. -/
def Agree (result result' : Except StoreFault Unit) : Prop :=
  result' = result ∨ ∃ path path', result = .error (.nameTooLong path) ∧
    result' = .error (.nameTooLong path')

/-- **Where the same is in the way, writing has the same result.** -/
theorem Alike.agree (h : Alike p s s') (hrooted : s.Rooted) {result result' : Except StoreFault Unit}
    (hresult : Writing s p result) (hresult' : Writing s' p result') : Agree result result' := by
  -- A first name is the same one in both stores.
  have hsame : ∀ {n n' : Nat}, First s p n → First s' p n' → n = n' := fun hfirst hfirst' =>
    hfirst.unique (h.first_iff.mp hfirst')
  cases hresult with
  | obstructed hfile =>
    cases hresult' with
    | obstructed hfile' =>
      obtain rfl := hfile.unique hrooted (h.obstructed_iff.mp hfile')
      exact .inl rfl
    | tooLong hfree => exact absurd (h.obstructed_iff.mpr hfile) (hfree _)
    | directory hfree => exact absurd (h.obstructed_iff.mpr hfile) (hfree _)
    | written hfree => exact absurd (h.obstructed_iff.mpr hfile) (hfree _)
  | tooLong hfree hlong =>
    cases hresult' with
    | obstructed hfile => exact absurd (h.obstructed_iff.mp hfile) (hfree _)
    | tooLong => exact .inr ⟨_, _, rfl, rfl⟩
    | directory _ habove hfirst hfits => exact absurd hfits (hlong habove _ (h.first_iff.mp hfirst))
    | written _ habove hfirst hfits => exact absurd hfits (hlong habove _ (h.first_iff.mp hfirst))
  | directory hfree habove hfirst hfits hnode =>
    cases hresult' with
    | obstructed hfile => exact absurd (h.obstructed_iff.mp hfile) (hfree _)
    | tooLong _ hlong => exact absurd hfits (hlong habove _ (h.first_iff.mpr hfirst))
    | directory _ _ hfirst' =>
      rw [hsame hfirst hfirst']
      exact .inl rfl
    | written _ _ _ _ hnode' => exact absurd (h.target_iff.mpr hnode) hnode'
  | written hfree habove hfirst hfits hnode =>
    cases hresult' with
    | obstructed hfile => exact absurd (h.obstructed_iff.mp hfile) (hfree _)
    | tooLong _ hlong => exact absurd hfits (hlong habove _ (h.first_iff.mpr hfirst))
    | directory _ _ _ _ hnode' => exact absurd (h.target_iff.mp hnode') hnode
    | written => exact .inl rfl

/-- A path with a longer last name is longer. -/
theorem size_render_concat_le {root : PathRoot} (hroot : root ≠ .relative) (front : List String)
    {name name' : String} (h : Utf8.size name.toList ≤ Utf8.size name'.toList) :
    Utf8.size (⟨root, front ++ [name]⟩ : Path).render.toList ≤
      Utf8.size (⟨root, front ++ [name']⟩ : Path).render.toList := by
  have htext : ∀ text : String, (root.text ++ text).isEmpty = false := by
    intro text
    cases root with
    | relative => exact absurd rfl hroot
    | absolute => simp [PathRoot.text]
    | doubled => simp [PathRoot.text]
  have hrender : ∀ name : String, (⟨root, front ++ [name]⟩ : Path).render =
      root.text ++ String.intercalate "/" (front ++ [name]) := by
    intro name
    simp [Path.render, htext]
  rw [hrender, hrender]
  by_cases hnil : front = []
  · simpa [hnil, Path.size_append] using h
  · rw [String.intercalate_append_of_ne_nil hnil (by simp), String.intercalate_append_of_ne_nil hnil (by simp)]
    simp only [String.toList_append, Path.size_append, String.intercalate_singleton]
    omega

/-- A file fits if its temporary file does. -/
theorem fits_of_temporaryPath (h : Resolved p) (hne : p.parts ≠ []) {n : Nat}
    (hfits : Fits (temporaryPath p n)) : Fits p := by
  obtain ⟨front, last, hparts⟩ := List.eq_nil_or_concat p.parts |>.resolve_left hne
  rw [List.concat_eq_append] at hparts
  have hp : p = ⟨p.root, front ++ [last]⟩ := by rw [← hparts]
  have htemporary : temporaryPath p n = ⟨p.root, front ++ [temporaryName p n]⟩ := by
    rw [temporaryPath, hparts, List.dropLast_concat]
    rfl
  have hname : Utf8.size last.toList ≤ Utf8.size (temporaryName p n).toList := by
    simp only [temporaryName, Path.name, hparts, List.getLastD_concat, String.toList_append,
      Path.size_append]
    omega
  have hroot : p.root ≠ .relative := by
    intro heq
    have habsolute := h.isAbsolute
    rw [Path.isAbsolute, heq] at habsolute
    cases habsolute
  rw [htemporary] at hfits
  rw [hp]
  refine ⟨(size_render_concat_le hroot front hname).trans hfits.path, ?_⟩
  obtain ⟨hfront, hlast⟩ := List.forall_mem_append.mp hfits.names
  exact List.forall_mem_append.mpr ⟨hfront, by
    simpa using hname.trans (by simpa using hlast)⟩

/-- The temporary file takes the place of the file unless a directory stands there. -/
theorem exec_replaceFile_staged (bytes : List UInt8) {temporary : Path} {found : Place}
    (hplace : s.placeOf temporary = .ok found) (hfree : s.node? found = none)
    (htarget : s.placeOf p = .ok place) :
    (exec (replaceFile temporary p) (staged s found bytes)).1 =
      if s.node? place = some .directory then
        .error (.replacesDirectory temporary.render p.render)
      else .ok () := by
  have hstaged := staged_spec hfree bytes
  have hsource := hstaged.placeOf_eq hplace
  have hafter := hstaged.placeOf_eq htarget
  have hfile : (staged s found bytes).node? found = some (.file bytes) := by
    rw [hstaged.node?_eq, if_pos rfl]
  by_cases hnode : s.node? place = some .directory
  · have hdirectory := hstaged.directory hnode
    simp [replaceFile, exec_bind, hsource, hafter, hfile, hdirectory, hnode]
  · have hother : (staged s found bytes).node? place ≠ some .directory := by
      rw [hstaged.node?_eq]
      split
      · simp
      · exact hnode
    rcases hafternode : (staged s found bytes).node? place with _ | _ | _
    · simp [replaceFile, exec_bind, hsource, hafter, hfile, hafternode, hnode]
    · simp [replaceFile, exec_bind, hsource, hafter, hfile, hafternode, hnode]
    · exact absurd hafternode hother

/-- **What comes of writing a file as a whole**, by what stands in its way. -/
theorem writing_writeWhole (h : Resolved p) (hne : p.parts ≠ []) (hrooted : s.Rooted)
    (bytes : List UInt8) : Writing s p (exec (writeWhole p bytes) s).1 := by
  by_cases hfile : ∃ place, Obstructed s p.parent place
  · obtain ⟨place, hfile⟩ := hfile
    have hmade := exec_ensureDirectories_of_obstructed h.parent hrooted hfile p.parts.length
    rw [writeWhole, exec_bind_of_error hmade]
    exact .obstructed hfile
  rw [not_exists] at hfile
  have hfuel : p.parent.parts.length ≤ p.parts.length := by
    rw [Path.parent, List.length_dropLast]
    omega
  rcases exec_ensureDirectories_of_free h.parent hrooted hfile hfuel with
    ⟨habove, s₀, hmade, hpaved⟩ | ⟨hlong, path, s₀, hmade⟩
  case inr =>
    rw [writeWhole, exec_bind_of_error hmade]
    exact .tooLong hfile (fun habove => absurd habove hlong) fun habove => absurd habove hlong
  -- The directories that were made are not in the way.
  have hextended : Extended [p] s s₀ := by
    have hkept := extended_ensureDirectories h p.parts.length s
    rwa [hmade] at hkept
  have halike : Alike p s s₀ := alike_of_extended hextended (by simpa using Apart.refl hne)
  obtain ⟨n, hn, hfirst⟩ := exists_first s₀ p
  have hbound : n < 0 + (s₀.nodes.length + 1) := by omega
  have hcreated := exec_createTemporary h hpaved hfirst (Nat.zero_le n) hbound
  have hfirst' := halike.first_iff.mp hfirst
  have hsteps := steps_writeWhole p bytes s
  generalize exec (writeWhole p bytes) s = outcome at hsteps ⊢
  obtain ⟨result, s'⟩ := outcome
  by_cases hfits : Fits (temporaryPath p n)
  · rw [if_pos hfits] at hcreated
    have htarget : s₀.placeOf p = .ok p.parts :=
      h.placeOf_of_paved (fits_of_temporaryPath h hne hfits) hpaved
    cases hsteps with
    | directories hmade' => cases hmade.symm.trans hmade'
    | temporary hmade' hcreate =>
      obtain ⟨-, rfl⟩ := Prod.mk.inj (hmade.symm.trans hmade')
      cases hcreated.symm.trans hcreate
    | target hmade' hcreate hplace hfree hreplace =>
      obtain ⟨-, rfl⟩ := Prod.mk.inj (hmade.symm.trans hmade')
      obtain ⟨hsame, -⟩ := Prod.mk.inj (hcreated.symm.trans hcreate)
      rw [← Except.ok.inj hsame] at hplace hreplace
      have hreplaced := exec_replaceFile_staged bytes hplace hfree htarget
      rw [hreplace] at hreplaced
      split at hreplaced
      · next hnode =>
        rw [Except.error.inj hreplaced]
        exact .directory hfile habove hfirst' hfits (halike.target_iff.mp hnode)
      · cases hreplaced
    | done hmade' _ _ hfree _ hafter hnode =>
      obtain ⟨-, rfl⟩ := Prod.mk.inj (hmade.symm.trans hmade')
      obtain rfl := h.eq_of_placeOf hafter
      exact .written hfile habove hfirst' hfits fun hdirectory =>
        hnode ((staged_spec hfree bytes).directory (halike.target_iff.mpr hdirectory))
  · rw [if_neg hfits] at hcreated
    cases hsteps with
    | directories hmade' => cases hmade.symm.trans hmade'
    | temporary hmade' hcreate =>
      obtain ⟨-, rfl⟩ := Prod.mk.inj (hmade.symm.trans hmade')
      obtain ⟨hfault, -⟩ := Prod.mk.inj (hcreated.symm.trans hcreate)
      rw [← Except.error.inj hfault]
      exact .tooLong hfile (fun _ m hm => hfirst'.unique hm ▸ hfits) fun _ m hm => hfirst'.unique hm ▸ rfl
    | target hmade' hcreate =>
      obtain ⟨-, rfl⟩ := Prod.mk.inj (hmade.symm.trans hmade')
      cases hcreated.symm.trans hcreate
    | done hmade' hcreate =>
      obtain ⟨-, rfl⟩ := Prod.mk.inj (hmade.symm.trans hmade')
      cases hcreated.symm.trans hcreate

/-- **Where a path cannot be looked at, a file at it or below it cannot be written**, because a name is too
long; unless it is the whole path that is too long. -/
theorem Alike.tooLong_of_look (h : Alike p s s') (hp : Resolved p) (hne : p.parts ≠ [])
    (hq : Resolved q) (habove : q.parts <+: p.parts) (hpath : Utf8.size q.render.toList ≤ pathLimit)
    {fault : StoreFault} (hlook : s'.look q = .error fault) {result : Except StoreFault Unit}
    (hresult : Writing s p result) : ∃ path, result = .error (.nameTooLong path) := by
  obtain ⟨path, -, -, hplace⟩ := look_eq_error_iff.mp hlook
  rcases hq.placeOf_cases s' with ⟨hlong, -⟩ | ⟨-, hwalked⟩
  · exact absurd hpath (not_le.mpr hlong)
  generalize s'.placeOf q = found at hwalked hplace
  cases hwalked with
  | found => cases hplace
  | blocked => cases hplace
  | missing => cases hplace
  | @tooLong front back name hsplit hlong hpaved =>
    have hbegin : front ++ [name] <+: p.parts := by
      refine List.IsPrefix.trans ?_ habove
      rw [hsplit]
      simp
    have hname : name ∈ p.parts := hbegin.subset (by simp)
    have hfits : ∀ n, ¬ Fits (temporaryPath p n) := fun n hfits =>
      absurd ((fits_of_temporaryPath hp hne hfits).names name hname) (not_le.mpr hlong)
    cases hresult with
    | tooLong => exact ⟨_, rfl⟩
    | directory _ _ _ hfits' => exact absurd hfits' (hfits _)
    | written _ _ _ hfits' => exact absurd hfits' (hfits _)
    | @obstructed place hfile =>
      -- Directories lead to the name that is too long, and no file.
      exfalso
      have hfile' := h.obstructed_iff.mpr hfile
      rcases List.prefix_or_prefix_of_prefix (hfile.front.trans (List.dropLast_prefix _)) hbegin with
        hbefore | hafter
      · by_cases hwhole : place = front ++ [name]
        · exact absurd (hfile.short name (by rw [hwhole]; simp)) (not_le.mpr hlong)
        · have hfront := prefix_dropLast hbefore hwhole
          rw [List.dropLast_concat] at hfront
          exact hfile'.not_paved hfront hpaved
      · exact absurd (hfile.short name (hafter.subset (by simp))) (not_le.mpr hlong)

end Filing
end FluentBuilder
