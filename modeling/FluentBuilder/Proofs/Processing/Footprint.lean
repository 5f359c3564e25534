import FluentBuilder.Proofs.Processing.Repetition
import FluentBuilder.Proofs.Store.Alike

/-!
# What rounds leave behind for each other

What becomes of the file of a builder depends on the files alone (`emission`), and on little of them: on
the text that stands at its path, and on what is in the way of writing it. The files of builders are apart
from each other (`apart_of_builderOf?`): their names end in a suffix, and the names of the directories
around them have no points. So whatever a round has written, another builder is emitted as it would have
been before (`Like.agrees`); unless both cannot be written because a name is too long, where another name
may be reported.
-/

namespace FluentBuilder.Processing

open Stateful Source Store Filing

variable {s s' : Surroundings} {e e' : Emitter} {d d' : Declaration} {b b' : Blueprint} {o o' : Outcome}
variable {root p : Path} {claimed claimed' : List Path} {before after : Store} {run run' : Run}

/-! ### Files of builders -/

/-- The names of declarations that those of modules and classes are: they have no slash and no character of
code zero. -/
abbrev Plain (d : Declaration) : Prop := '/' ∉ d.qualifiedName.toList ∧ '\x00' ∉ d.qualifiedName.toList

/-- A path at which a builder can be written to a root: it leads down from there. -/
structure Target (root p : Path) : Prop where
  /-- The root was resolved. -/
  above : Resolved root
  /-- The path was. -/
  path : Resolved p
  /-- It stands below the root. -/
  below : Path.Below root p

/-- Such a path has names. -/
theorem Target.parts_ne_nil (h : Target root p) : p.parts ≠ [] := by
  obtain ⟨further, rfl, hne, -⟩ := h.below
  simp [hne]

/-- The path of a builder is such a path. -/
theorem target_outputPath (hd : Plain d) (hb : builderOf? s d = some b) (hroot : Resolved root) :
    Target root (b.outputPath root) := by
  have hbelow := below_of_builderOf? hd.1 hb root
  refine ⟨hroot, ⟨?_, Looked.not_mem (.inr hbelow) hroot.not_up,
    hasNull_of_builderOf? hd.1 hd.2 hb hroot.not_null⟩, hbelow⟩
  obtain ⟨further, heq, -, -⟩ := hbelow
  rw [heq]
  exact hroot.isAbsolute

/-- A text with a point in it is no name of a directory around a builder. -/
theorem exists_outputPath_parts (hd : Plain d) (hb : builderOf? s d = some b) (root : Path) :
    ∃ front last, (∀ name ∈ front, '.' ∉ name.toList) ∧
      (b.outputPath root).parts = root.parts ++ (front ++ [last ++ ".py"]) := by
  obtain ⟨schema, hschema, hb⟩ := exists_of_builderOf? hb
  have hwithout := without_of_schemaOf (by decide) hd.1 hschema
  obtain ⟨front, last, hsegments, hpath⟩ := hwithout.exists_outputPath hb root
  refine ⟨front, last, fun name hname => ?_, by rw [hpath]⟩
  exact Dotted.not_mem_of_mem_segments (hsegments name (List.mem_append_left _ hname))

/-- **The files of builders are apart from each other.** -/
theorem apart_of_builderOf? (hd : Plain d) (hb : builderOf? s d = some b) (hd' : Plain d')
    (hb' : builderOf? s' d' = some b') (root : Path) :
    Apart (b.outputPath root) (b'.outputPath root) := by
  obtain ⟨front, last, hfront, hparts⟩ := exists_outputPath_parts hd hb root
  obtain ⟨front', last', hfront', hparts'⟩ := exists_outputPath_parts hd' hb' root
  have hpoint : ∀ name : String, '.' ∈ (name ++ ".py").toList := fun name => by
    simp [String.toList_append]
  have hdirectories : (b.outputPath root).parts.dropLast = root.parts ++ front := by
    rw [hparts, ← List.append_assoc, List.dropLast_concat]
  have hdirectories' : (b'.outputPath root).parts.dropLast = root.parts ++ front' := by
    rw [hparts', ← List.append_assoc, List.dropLast_concat]
  refine ⟨fun h => ?_, fun n h => ?_, fun h => ?_⟩
  · rw [hdirectories, hparts', List.prefix_append_right_inj] at h
    exact hfront _ (h.subset (by simp)) (hpoint last')
  · rw [temporaryPath_parts, hdirectories, hparts', List.append_assoc, List.prefix_append_right_inj] at h
    have hmem : temporaryName (b.outputPath root) n ∈ front' ++ [last' ++ ".py"] := h.subset (by simp)
    rcases List.mem_append.mp hmem with hmem | hmem
    · exact hfront' _ hmem (by simp [temporaryName, String.toList_append])
    · -- The suffixes are different.
      have hlast := congrArg (fun name => name.toList.getLast?) (List.mem_singleton.mp hmem)
      simp [temporaryName, String.toList_append, List.getLast?_cons, List.getLast?_append] at hlast
  · rw [hdirectories', hparts, List.prefix_append_right_inj] at h
    exact hfront' _ (h.subset (by simp)) (hpoint last)

/-! ### What declarations write -/

/-- The files of the builders of declarations. -/
def filesOf (s : Surroundings) (e : Emitter) (ds : List Declaration) : List Path :=
  ds.filterMap fun d => (written? s d).map (·.outputPath e.root)

/-- A file of theirs is that of a builder of one of them. -/
theorem mem_filesOf {ds : List Declaration} :
    p ∈ filesOf s e ds ↔ ∃ d ∈ ds, ∃ b, written? s d = some b ∧ b.outputPath e.root = p := by
  simp only [filesOf, List.mem_filterMap, Option.map_eq_some_iff]

/-- More declarations have more files. -/
theorem filesOf_mono {ds ds' : List Declaration} (h : ds ⊆ ds') : filesOf s e ds ⊆ filesOf s e ds' := by
  intro p hp
  obtain ⟨d, hd, hwritten⟩ := mem_filesOf.mp hp
  exact mem_filesOf.mpr ⟨d, h hd, hwritten⟩

/-- The work on a declaration writes the file of its builder only. -/
theorem Judged.extended (h : Judged s e d claimed before o claimed' after) (hd : Plain d)
    (hroot : Resolved e.root) : Extended (filesOf s e [d]) before after := by
  cases h with
  | invalid => exact .refl _ _
  | unbuilt => exact .refl _ _
  | @built b _ hkind hb hhandled =>
    have hfiles : filesOf s e [d] = [b.outputPath e.root] := by
      rw [filesOf, List.filterMap_cons, written?_eq_some_iff.mpr ⟨hkind, hb⟩]
      rfl
    have hwriting : ∀ {result : Except StoreFault Unit},
        exec (writeWhole (b.outputPath e.root) (Utf8.encode b.render)) before = (result, after) →
          Extended (filesOf s e [d]) before after := by
      intro result hwrite
      have hextended := extended_writeWhole (target_outputPath hd hb hroot).path (Utf8.encode b.render) before
      rwa [hwrite, ← hfiles] at hextended
    cases hhandled with
    | unopened => exact .refl _ _
    | upToDate => exact .refl _ _
    | drifted => exact .refl _ _
    | written _ _ _ hwrite => exact hwriting hwrite
    | unwritten _ _ _ hwrite => exact hwriting hwrite

/-- **The work on declarations writes the files of their builders only.** -/
theorem extended_processAll {ds : List Declaration} (hnames : ∀ d ∈ ds, Plain d) (hroot : Resolved e.root)
    {progress : Progress} (hrefs : Resolving.Sound s progress.refs) {outcomes : List Outcome}
    (h : exec (processAll s e progress ds) run = (.ok outcomes, run')) :
    Extended (filesOf s e ds) run.store run'.store := by
  induction ds generalizing progress run outcomes with
  | nil =>
    cases h
    exact .refl _ _
  | cons d rest ih =>
    obtain ⟨hd, hrest⟩ := List.forall_mem_cons.mp hnames
    obtain ⟨o, progress', run₁, others, hone, hall, rfl⟩ := exec_processAll_cons_iff.mp h
    have hfirst := (judged_processOne hrefs hone).extended hd hroot
    have hlater := ih hrest (effect_of_processOne hrefs hone).1 hall
    exact (hfirst.mono (filesOf_mono (by simp))).trans (hlater.mono (filesOf_mono (by simp)))

/-! ### Emitting -/

/-- What comes of emitting a builder, by the files alone. -/
def emission (root : Path) (check : Bool) (b : Blueprint) (store : Store) :
    Except RunFault (Path × EmitStatus) :=
  match store.look root with
  | .error fault => .error (.store fault)
  | .ok (some (.file _)) => .error (.config (.blockedOutput root))
  | .ok _ =>
    match textAt store (b.outputPath root) with
    | .error fault => .error fault
    | .ok existing =>
      if existing = some b.render then .ok (b.outputPath root, .unchanged)
      else if check then .ok (b.outputPath root, if existing.isNone then .missing else .stale)
      else match (exec (writeWhole (b.outputPath root) (Utf8.encode b.render)) store).1 with
        | .ok () => .ok (b.outputPath root, .generated)
        | .error fault => .error (.store fault)

/-- Emitting a builder comes to this. -/
theorem exec_emit_fst (root : Path) (check : Bool) (b : Blueprint) (run : Run) :
    (exec (emit root check b) run).1 = emission root check b run.store := by
  have hfit : Running.Fit run.store root → (exec (emit root check b) run).1 =
      match textAt run.store (b.outputPath root) with
      | .error fault => .error fault
      | .ok existing =>
        if existing = some b.render then .ok (b.outputPath root, .unchanged)
        else if check then .ok (b.outputPath root, if existing.isNone then .missing else .stale)
        else match (exec (writeWhole (b.outputPath root) (Utf8.encode b.render)) run.store).1 with
          | .ok () => .ok (b.outputPath root, .generated)
          | .error fault => .error (.store fault) := by
    intro hroot
    rw [exec_emit_of_fit hroot]
    rcases textAt run.store (b.outputPath root) with fault | existing
    · rfl
    · simp only [exec_settle]
      split
      · rfl
      split
      · rfl
      rcases exec (writeWhole (b.outputPath root) (Utf8.encode b.render)) run.store with ⟨fault | _, after⟩
      · rfl
      · rfl
  rcases hroot : run.store.look root with fault | _ | bytes | _
  · rw [emission, hroot, emit, emitPath, exec_bind, exec_bind, Running.exec_checkOutput_of_error hroot]
  · rw [emission, hroot, hfit (.inl hroot)]
  · rw [emission, hroot, emit, emitPath, exec_bind, exec_bind,
      Running.exec_checkOutput_of_blocked ⟨bytes, hroot⟩]
  · rw [emission, hroot, hfit (.inr hroot)]

/-- Two results of emitting agree, but for which name is too long. -/
def Agrees (result result' : Except RunFault (Path × EmitStatus)) : Prop :=
  result' = result ∨ ∃ path path', result = .error (.store (.nameTooLong path)) ∧
    result' = .error (.store (.nameTooLong path'))

/-- Two stores in which a builder is emitted alike: the second one developed from the first one, nothing
else is in the way of writing its file, and there is the same file. -/
structure Like (root p : Path) (before after : Store) : Prop where
  /-- The file can be written to the root. -/
  target : Target root p
  /-- Everything stood below directories. -/
  rooted : before.Rooted
  /-- Everything stands below directories. -/
  rooted' : after.Rooted
  /-- Directories stay. -/
  evolves : Evolves (fun _ => True) before after
  /-- The same is in the way. -/
  alike : Alike p before after
  /-- There is the same file, or none. -/
  bytes_iff : ∀ bytes, after.bytes p = .ok bytes ↔ before.bytes p = .ok bytes
  /-- The root is a file in both stores, or in none. -/
  blocked_iff : Running.Blocked after root ↔ Running.Blocked before root

/-- The text at a path: it cannot be looked at, or a file stands there, or none does. -/
theorem textAt_cases (store : Store) (p : Path) :
    (∃ path, store.look p = .error (.nameTooLong path) ∧
      textAt store p = .error (.store (.nameTooLong path))) ∨
    (∃ bytes, store.bytes p = .ok bytes ∧
      textAt store p = ((Running.textOf bytes).map some).mapError .undecodable) ∨
    (∀ bytes, store.bytes p ≠ .ok bytes) ∧ textAt store p = .ok none := by
  rcases hlook : store.look p with fault | _ | bytes | _
  · obtain ⟨path, rfl, -, -⟩ := look_eq_error_iff.mp hlook
    exact .inl ⟨path, rfl, by rw [textAt, hlook]⟩
  · have hnone : textAt store p = .ok none := by rw [textAt, hlook]
    exact .inr (.inr ⟨(textAt_eq_none_iff.mp hnone).2, hnone⟩)
  · exact .inr (.inl ⟨bytes, bytes_of_look hlook, by rw [textAt, hlook]⟩)
  · have hnone : textAt store p = .ok none := by rw [textAt, hlook]
    exact .inr (.inr ⟨(textAt_eq_none_iff.mp hnone).2, hnone⟩)

/-- Where the root is fit, the text at the path of the builder is read, and the file is written unless it
holds the text of the builder. -/
theorem emission_of_fit {store : Store} (hroot : Running.Fit store root) (b : Blueprint) :
    emission root false b store = match textAt store (b.outputPath root) with
      | .error fault => .error fault
      | .ok existing =>
        if existing = some b.render then .ok (b.outputPath root, .unchanged)
        else match (exec (writeWhole (b.outputPath root) (Utf8.encode b.render)) store).1 with
          | .ok () => .ok (b.outputPath root, .generated)
          | .error fault => .error (.store fault) := by
  rcases hroot with hroot | hroot
  · simp [emission, hroot]
  · simp [emission, hroot]

/-- A path that can be looked at is not too long. -/
theorem size_le_of_look {store : Store} {node : Option Node} (hp : Resolved p)
    (hlook : store.look p = .ok node) : Utf8.size p.render.toList ≤ pathLimit := by
  rcases hp.placeOf_cases store with ⟨-, hplace⟩ | ⟨hpath, -⟩
  · have herror := look_eq_error_iff.mpr ⟨_, rfl, hp.not_null, hplace⟩
    cases hlook.symm.trans herror
  · exact hpath

namespace Like

/-- Where the root or the file cannot be looked at any more, the file could not have been written before. -/
theorem tooLong_of_look (h : Like root (b.outputPath root) before after) {q : Path}
    (hq : q = root ∨ q = b.outputPath root) {node : Option Node}
    (hbefore : before.look q = .ok node) {fault : StoreFault} (hafter : after.look q = .error fault)
    (hfit : Running.Fit before root) (hnone : textAt before (b.outputPath root) = .ok none) :
    ∃ path path', emission root false b before = .error (.store (.nameTooLong path)) ∧
      fault = .nameTooLong path' := by
  obtain ⟨path', hfault, -, -⟩ := look_eq_error_iff.mp hafter
  have hwriting := writing_writeWhole h.target.path h.target.parts_ne_nil h.rooted (Utf8.encode b.render)
  have habove : Resolved q ∧ q.parts <+: (b.outputPath root).parts := by
    rcases hq with rfl | rfl
    · obtain ⟨further, heq, -, -⟩ := h.target.below
      rw [heq]
      exact ⟨h.target.above, List.prefix_append _ _⟩
    · exact ⟨h.target.path, List.prefix_refl _⟩
  obtain ⟨path, hresult⟩ := h.alike.tooLong_of_look h.target.path h.target.parts_ne_nil habove.1 habove.2
    (size_le_of_look habove.1 hbefore) hafter hwriting
  refine ⟨path, path', ?_, hfault⟩
  simp [emission_of_fit hfit, hnone, hresult]

/-- Where the same text is found, the file is left alone or written in both stores. -/
theorem agrees_of_textAt (h : Like root (b.outputPath root) before after) (hfit : Running.Fit before root)
    (hfit' : Running.Fit after root)
    (hsame : textAt after (b.outputPath root) = textAt before (b.outputPath root)) :
    Agrees (emission root false b before) (emission root false b after) := by
  have hwriting := writing_writeWhole h.target.path h.target.parts_ne_nil h.rooted (Utf8.encode b.render)
  have hwriting' := writing_writeWhole h.target.path h.target.parts_ne_nil h.rooted' (Utf8.encode b.render)
  have hagree := h.alike.agree h.rooted hwriting hwriting'
  rw [emission_of_fit hfit, emission_of_fit hfit', hsame]
  rcases textAt before (b.outputPath root) with fault | existing
  · exact .inl rfl
  · by_cases hold : existing = some b.render
    · simp only [if_pos hold]
      exact .inl rfl
    · simp only [if_neg hold]
      rcases hagree with heq | ⟨path, path', hresult, hresult'⟩
      · rw [heq]
        exact .inl rfl
      · rw [hresult, hresult']
        exact .inr ⟨path, path', rfl, rfl⟩

/-- **Where the same is in the way, a builder is emitted alike.** -/
theorem agrees (h : Like root (b.outputPath root) before after) :
    Agrees (emission root false b before) (emission root false b after) := by
  rcases Running.fit_or_blocked_or_error before root with hfit | hblocked | ⟨fault, hlook⟩
  · obtain ⟨node, hnode⟩ := hfit.exists_look
    rcases Running.fit_or_blocked_or_error after root with hfit' | hblocked' | ⟨fault, hlook'⟩
    · rcases textAt_cases before (b.outputPath root) with
        ⟨path, hlook, htext⟩ | ⟨bytes, hbytes, htext⟩ | ⟨hnone, htext⟩
      · refine h.agrees_of_textAt hfit hfit' ?_
        rw [htext, textAt, h.evolves.look_eq_error hlook]
      · refine h.agrees_of_textAt hfit hfit' ?_
        rw [textAt, textAt, look_of_bytes hbytes, look_of_bytes ((h.bytes_iff bytes).mpr hbytes)]
      · rcases textAt_cases after (b.outputPath root) with
          ⟨path', hlook', htext'⟩ | ⟨bytes, hbytes, -⟩ | ⟨-, htext'⟩
        · obtain ⟨⟨node', hnode'⟩, -⟩ := textAt_eq_none_iff.mp htext
          obtain ⟨path, path'', hfailed, -⟩ :=
            h.tooLong_of_look (.inr rfl) hnode' hlook' hfit htext
          exact .inr ⟨path, path', hfailed, by rw [emission_of_fit hfit', htext']⟩
        · exact absurd ((h.bytes_iff bytes).mp hbytes) (hnone bytes)
        · exact h.agrees_of_textAt hfit hfit' (htext'.trans htext.symm)
    · exact absurd (h.blocked_iff.mp hblocked') hfit.not_blocked
    · -- The root cannot be looked at any more, and so there is no file below it.
      obtain ⟨path', rfl, -, -⟩ := look_eq_error_iff.mp hlook'
      have hfailed' : emission root false b after = .error (.store (.nameTooLong path')) := by
        rw [emission, hlook']
      rcases textAt_cases before (b.outputPath root) with
        ⟨path, hlook, htext⟩ | ⟨bytes, hbytes, -⟩ | ⟨-, htext⟩
      · exact .inr ⟨path, path', by rw [emission_of_fit hfit, htext], hfailed'⟩
      · obtain ⟨node', hnode'⟩ := h.evolves.exists_look_of_below h.target.below hbytes
        cases hlook'.symm.trans hnode'
      · obtain ⟨path, -, hfailed, -⟩ :=
          h.tooLong_of_look (.inl rfl) hnode hlook' hfit htext
        exact .inr ⟨path, path', hfailed, hfailed'⟩
  · obtain ⟨bytes, hbefore⟩ := id hblocked
    obtain ⟨bytes', hafter⟩ := h.blocked_iff.mpr hblocked
    refine .inl ?_
    simp [emission, hbefore, hafter]
  · refine .inl ?_
    simp [emission, hlook, h.evolves.look_eq_error hlook]

end Like

/-! ### Names that are too long -/

section

/- The file of a builder has a name that is too long. -/
variable {store : Store} (hp : Resolved (b.outputPath root)) (hlong : ¬ Fits (b.outputPath root))

include hp hlong

/-- Where a directory stands around the file, it cannot be looked at. -/
theorem emission_of_paved (hroot : Running.Fit store root)
    (hpaved : Paved store [] (b.outputPath root).parts.dropLast) :
    emission root false b store = .error (.store (.nameTooLong (b.outputPath root).render)) := by
  have hlook : store.look (b.outputPath root) = .error (.nameTooLong (b.outputPath root).render) :=
    look_eq_error_iff.mpr ⟨_, rfl, hp.not_null, hp.placeOf_of_not_fits hlong hpaved⟩
  rw [emission_of_fit hroot, textAt, hlook]

/-- Where no directory stands around it, but one can be made, it is the temporary file that cannot be
made. -/
theorem emission_of_not_paved (hroot : Running.Fit store root) (hne : (b.outputPath root).parts ≠ [])
    (hrooted : store.Rooted) (hsize : Utf8.size (b.outputPath root).render.toList ≤ pathLimit)
    (habove : Fits (b.outputPath root).parent)
    (hfree : ∀ place, ¬ Obstructed store (b.outputPath root).parent place)
    (hpaved : ¬ Paved store [] (b.outputPath root).parts.dropLast) {n : Nat}
    (hfirst : First store (b.outputPath root) n) :
    emission root false b store =
      .error (.store (.nameTooLong (temporaryPath (b.outputPath root) n).render)) := by
  have hnone : textAt store (b.outputPath root) = .ok none := by
    rw [textAt, hp.look_of_not_paved hsize habove.names hpaved]
  have hunfit : ∀ m, ¬ Fits (temporaryPath (b.outputPath root) m) := fun m hfits =>
    hlong (fits_of_temporaryPath hp hne hfits)
  have hwriting := writing_writeWhole hp hne hrooted (Utf8.encode b.render)
  simp only [emission_of_fit hroot, hnone, reduceCtorEq, if_false]
  generalize (exec (writeWhole (b.outputPath root) (Utf8.encode b.render)) store).1 = result at hwriting ⊢
  cases hwriting with
  | obstructed hfile => exact absurd hfile (hfree _)
  | tooLong _ _ hpath => rw [hpath habove n hfirst]
  | directory _ _ _ hfits => exact absurd hfits (hunfit _)
  | written _ _ _ hfits => exact absurd hfits (hunfit _)

end

end FluentBuilder.Processing
