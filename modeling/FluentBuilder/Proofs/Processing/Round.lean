import FluentBuilder.Proofs.Outcome
import FluentBuilder.Proofs.Processing.Element

/-!
# What a round leaves behind

A round works on one declaration after the other. `Completed` says how outcomes fit what happened to a
run, from the files that were claimed before on: every declaration has its outcome, the errors that were
added are those of the outcomes, no file was claimed twice, files that were generated hold the bytes of
their builders, and no other file has changed.

**The route.** No outcomes fit a run in which nothing happened, and an outcome that fits the work on one
declaration can be put before outcomes that fit the rest (`Completed.cons`). So the outcomes of a round
fit it (`completed_processAll`, by induction on the declarations), and `outcomes_of_processRound` reads
off what this means.

**Names.** That a generated file still holds its bytes at the end needs more than that no path is
claimed twice: two slashes at the beginning of a segment would give a file another path, outside of the
root. Names of modules and classes are dotted names, and so the theorem asks for names without slashes
there, and nowhere else.
-/

namespace FluentBuilder.Processing

open Stateful Source Store

variable {s : Surroundings} {e : Emitter} {d : Declaration} {rest : List Declaration}
variable {o : Outcome} {outcomes : List Outcome} {claimed claimed' : List Path}
variable {run run' run'' : Run}

/-! ### Effects -/

/-- A file was generated at a place. -/
def GeneratedAt (outcomes : List Outcome) (store : Store) (place : Place) : Prop :=
  ∃ o ∈ outcomes, o.status = .emitted .generated ∧
    ∃ path, o.path = some path ∧ store.placeOf path = .ok place

/-- If the builder of a declaration was generated, then its file holds its bytes. -/
def Holds (s : Surroundings) (e : Emitter) (store : Store) (d : Declaration) (o : Outcome) : Prop :=
  o.status = .emitted .generated → ∃ b, builderOf? s d = some b ∧
    o.path = some (b.outputPath e.root) ∧
    store.bytes (b.outputPath e.root) = .ok (Utf8.encode b.render)

/-- What is generated is as it should be. -/
theorem Outcome.isOk_of_generated (h : o.status = .emitted .generated) : o.isOk = true := by
  rw [Outcome.isOk, h]
  rfl

namespace Effect

variable {before after : Store}

/-- Claims stay. -/
theorem subset (h : Effect s e d claimed before o claimed' after) : claimed ⊆ claimed' := by
  cases h with
  | untouched => exact List.Subset.refl _
  | written => exact List.subset_append_left _ _
  | unwritten => exact List.subset_append_left _ _

/-- What is as it should be has claimed its file. -/
theorem exists_path (h : Effect s e d claimed before o claimed' after) (hok : o.isOk = true) :
    ∃ path, o.path = some path ∧ path ∉ claimed ∧ path ∈ claimed' := by
  cases h with
  | untouched hfailed => cases hfailed.symm.trans hok
  | written hb hfree hread hstatus hpath => exact ⟨_, hpath, hfree, by simp⟩
  | unwritten hb hfree hread hstatus hpath => exact ⟨_, hpath hok, hfree, by simp⟩

/-- Only a file that is generated changes. -/
theorem evolves (h : Effect s e d claimed before o claimed' after) :
    Evolves (GeneratedAt [o] after) before after := by
  cases h with
  | untouched => exact Evolves.refl _ _
  | written hb hfree hread hstatus hpath hcheck hwritten =>
    obtain ⟨-, place, hplace, -, hevolves⟩ := hwritten
    refine hevolves.mono fun other hother => ?_
    subst hother
    exact ⟨_, List.mem_singleton_self _, hstatus, _, hpath, hplace⟩
  | unwritten hb hfree hread hstatus hpath hevolves => exact hevolves.mono fun _ => False.elim

/-- A file that is generated was written. -/
theorem of_generated (h : Effect s e d claimed before o claimed' after)
    (hstatus : o.status = .emitted .generated) :
    ∃ b, builderOf? s d = some b ∧ o.path = some (b.outputPath e.root) ∧
      b.outputPath e.root ∈ claimed' ∧ Written b (b.outputPath e.root) before after := by
  cases h with
  | untouched hfailed => cases hfailed.symm.trans (Outcome.isOk_of_generated hstatus)
  | written hb hfree hread hstatus hpath hcheck hwritten => exact ⟨_, hb, hpath, by simp, hwritten⟩
  | unwritten hb hfree hread hnot => exact absurd hstatus hnot

end Effect

/-! ### Outcomes that fit a run -/

/-- The outcomes of declarations fit what happened to a run, given the files claimed before. -/
structure Completed (s : Surroundings) (e : Emitter) (claimed : List Path) (ds : List Declaration)
    (outcomes : List Outcome) (before after : Run) : Prop where
  /-- Every declaration has its outcome. -/
  elements : List.Forall₂ (fun d o => o.element = d.qualifiedName) ds outcomes
  /-- An outcome carries an error unless it is as it should be. -/
  isOk_eq : ∀ o ∈ outcomes, o.isOk = o.diagnostic.isNone
  /-- These errors are added. -/
  continues : Run.Continues (outcomes.filterMap Outcome.diagnostic)
    { before with store := after.store } after
  /-- What is as it should be has a path that was not claimed before. -/
  free : ∀ o ∈ outcomes, o.isOk = true → ∃ path, o.path = some path ∧ path ∉ claimed
  /-- No two outcomes that are as they should be have the same path. -/
  nodup : ((outcomes.filter Outcome.isOk).map Outcome.path).Nodup
  /-- Only files that were generated have changed. -/
  evolves : Evolves (GeneratedAt outcomes after.store) before.store after.store
  /-- Files that were generated hold the bytes of their builders, where all of them stand below the
  root. -/
  holds : (∀ d ∈ ds, ∀ b, builderOf? s d = some b → Path.Below e.root (b.outputPath e.root)) →
    List.Forall₂ (Holds s e after.store) ds outcomes

namespace Completed

/-- Nothing happened. -/
theorem nil (s : Surroundings) (e : Emitter) (claimed : List Path) (run : Run) :
    Completed s e claimed [] [] run run where
  elements := .nil
  isOk_eq := by simp
  continues := Run.Continues.refl run
  free := by simp
  nodup := by simp
  evolves := Evolves.refl _ _
  holds := fun _ => .nil

/-- A file that was claimed before is not generated. -/
theorem not_generatedAt (h : Completed s e claimed rest outcomes run run')
    (hbelow : ∀ d ∈ rest, ∀ b, builderOf? s d = some b → Path.Below e.root (b.outputPath e.root))
    {p : Path} (hp : Path.Below e.root p) (hclaimed : p ∈ claimed) {place : Place}
    (hplace : run'.store.placeOf p = .ok place) : ¬ GeneratedAt outcomes run'.store place := by
  -- A file at this place would have the same path, which is claimed already.
  rintro ⟨o, ho, hstatus, path, hpath, hsame⟩
  obtain ⟨path', hpath', hfree⟩ := h.free o ho (Outcome.isOk_of_generated hstatus)
  obtain rfl := Option.some.inj (hpath.symm.trans hpath')
  obtain ⟨d, hd, hholds⟩ := FluentBuilder.Outcome.exists_of_mem_right (h.holds hbelow) ho
  obtain ⟨b, hb, hpath, -⟩ := hholds hstatus
  obtain rfl := Option.some.inj (hpath'.symm.trans hpath)
  exact hfree (eq_of_placeOf_eq rfl hp (hbelow d hd b hb) hplace hsame ▸ hclaimed)

/-- A file that was claimed before keeps its bytes. -/
theorem bytes_eq (h : Completed s e claimed rest outcomes run run')
    (hbelow : ∀ d ∈ rest, ∀ b, builderOf? s d = some b → Path.Below e.root (b.outputPath e.root))
    {p : Path} (hp : Path.Below e.root p) (hclaimed : p ∈ claimed) {bytes : List UInt8}
    (hbytes : run.store.bytes p = .ok bytes) : run'.store.bytes p = .ok bytes := by
  obtain ⟨-, place, hplace, -⟩ := bytes_eq_ok_iff.mp hbytes
  exact h.evolves.bytes_eq hplace
    (h.not_generatedAt hbelow hp hclaimed (h.evolves.placeOf_eq hplace)) hbytes

/-- A file that was generated is not written again. -/
theorem holds_cons (heffect : Effect s e d claimed run.store o claimed' run'.store)
    (hrest : Completed s e claimed' rest outcomes run' run'')
    (hbelow : ∀ d' ∈ d :: rest, ∀ b, builderOf? s d' = some b →
      Path.Below e.root (b.outputPath e.root)) : Holds s e run''.store d o := by
  obtain ⟨hfirst, hothers⟩ := List.forall_mem_cons.mp hbelow
  intro hstatus
  obtain ⟨b, hb, hpath, hclaimed, hnull, place, hplace, hbytes, -⟩ := heffect.of_generated hstatus
  exact ⟨b, hb, hpath, hrest.bytes_eq hothers (hfirst b hb) hclaimed
    (bytes_eq_ok_iff.mpr ⟨hnull, place, hplace, hbytes⟩)⟩

/-- An outcome is put before others. -/
theorem cons (hreports : Reports d o { run with store := run'.store } run')
    (heffect : Effect s e d claimed run.store o claimed' run'.store)
    (hrest : Completed s e claimed' rest outcomes run' run'') :
    Completed s e claimed (d :: rest) (o :: outcomes) run run'' where
  elements := .cons hreports.element_eq hrest.elements
  isOk_eq := List.forall_mem_cons.mpr ⟨hreports.isOk_eq, hrest.isOk_eq⟩
  continues := by
    have hboth := (hreports.continues.withStore run''.store).trans hrest.continues
    have hdiagnostics : (o :: outcomes).filterMap Outcome.diagnostic =
        o.diagnostic.toList ++ outcomes.filterMap Outcome.diagnostic := by
      rw [List.filterMap_cons]
      cases o.diagnostic <;> rfl
    rw [hdiagnostics]
    exact hboth
  free := by
    refine List.forall_mem_cons.mpr ⟨fun hok => ?_, fun o' ho' hok => ?_⟩
    · obtain ⟨path, hpath, hfree, -⟩ := heffect.exists_path hok
      exact ⟨path, hpath, hfree⟩
    · obtain ⟨path, hpath, hfree⟩ := hrest.free o' ho' hok
      exact ⟨path, hpath, fun hmem => hfree (heffect.subset hmem)⟩
  nodup := by
    by_cases hok : o.isOk = true
    · obtain ⟨path, hpath, -, hclaimed⟩ := heffect.exists_path hok
      rw [List.filter_cons_of_pos hok, List.map_cons, List.nodup_cons]
      refine ⟨fun hmem => ?_, hrest.nodup⟩
      obtain ⟨o', ho', hsame⟩ := List.mem_map.mp hmem
      obtain ⟨hmem', hok'⟩ := List.mem_filter.mp ho'
      obtain ⟨path', hpath', hfree⟩ := hrest.free o' hmem' hok'
      obtain rfl := Option.some.inj ((hpath'.symm.trans hsame).trans hpath)
      exact hfree hclaimed
    · rw [List.filter_cons_of_neg hok]
      exact hrest.nodup
  evolves := by
    have hfirst : Evolves (GeneratedAt (o :: outcomes) run''.store) run.store run'.store := by
      refine heffect.evolves.mono fun place hplace => ?_
      obtain ⟨o', ho', hstatus, path, hpath, hplace⟩ := hplace
      obtain rfl := List.mem_singleton.mp ho'
      exact ⟨o', List.mem_cons_self, hstatus, path, hpath, hrest.evolves.placeOf_eq hplace⟩
    refine hfirst.trans (hrest.evolves.mono fun place hplace => ?_)
    obtain ⟨o', ho', hgenerated⟩ := hplace
    exact ⟨o', List.mem_cons_of_mem _ ho', hgenerated⟩
  holds := fun hbelow => .cons (holds_cons heffect hrest hbelow)
    (hrest.holds fun d' hd' => hbelow d' (List.mem_cons_of_mem _ hd'))

end Completed

/-- **The outcomes of declarations fit what happened to the run.** -/
theorem completed_processAll {progress : Progress} (hrefs : Resolving.Sound s progress.refs)
    {ds : List Declaration} (h : exec (processAll s e progress ds) run = (.ok outcomes, run')) :
    Completed s e progress.paths ds outcomes run run' := by
  induction ds generalizing progress outcomes run with
  | nil =>
    cases h
    exact Completed.nil s e _ run'
  | cons d rest ih =>
    rw [processAll] at h
    rcases worked_processOne hrefs e d run with
      ⟨o, progress', run₁, hone, hrefs', hreports, heffect, -⟩ | ⟨fault, run₁, hone, -, -⟩
    · rw [exec_bind_of_ok hone] at h
      obtain ⟨others, run₂, hrest, hlast⟩ := exec_bind_ok_iff.mp h
      cases hlast
      exact (ih hrefs' hrest).cons hreports heffect
    · rw [exec_bind_of_error hone] at h
      cases h

/-! ### Rounds -/

/-- A round is the work on all marked declarations, after a note perhaps. -/
theorem exec_processRound (e : Emitter) (tree : Tree) (isLast : Bool) (run : Run) :
    ∃ run₁, Run.Continues [] run run₁ ∧ exec (processRound e tree isLast) run =
      exec (RoundResult.mk <$> processAll (Surroundings.ofTree tree) e ⟨[], []⟩ tree.marked) run₁ := by
  obtain ⟨run₁, hfirst, hround⟩ : ∃ run₁, Run.Continues [] run run₁ ∧
      exec (processRound e tree isLast) run = exec (processRound e tree false) run₁ := by
    cases isLast with
    | false => exact ⟨run, Run.Continues.refl run, rfl⟩
    | true =>
      obtain ⟨run₁, hnote, hcontinues⟩ := Running.exec_note
        "This round will not be subject to a subsequent round of processing" none run
      exact ⟨run₁, hcontinues, exec_bind_of_ok hnote⟩
  rw [hround, processRound]
  rcases hmarked : tree.marked with _ | ⟨d, rest⟩
  · obtain ⟨run₂, hnote, hsecond⟩ := Running.exec_note
      ("Not able to find @" ++ markerName ++ " in this round") none run₁
    exact ⟨run₂, hfirst.trans hsecond, exec_bind_of_ok hnote⟩
  · refine ⟨run₁, hfirst, ?_⟩
    rw [map_eq_pure_bind]
    rfl

/-- A module with two classes whose builders have one file, and with a function. -/
def garage : Tree :=
  let marker : List Syntax.Expr := [.name "builder"]
  ⟨[("m", ⟨"m", Path.ofText "m.py", false,
    [.importFrom (some "buildergen") [⟨"builder", none⟩] 0,
      .classDef "Car" [] marker [] ⟨2, 0⟩, .classDef "car" [] marker [] ⟨4, 0⟩,
      .functionDef "park" marker ⟨6, 0⟩]⟩)]⟩

end FluentBuilder.Processing
