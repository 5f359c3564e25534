import FluentBuilder.Proofs.Processing.Interference

/-!
# Rounds after which nothing is left to do

A round over the same declarations, at once after the first one, writes no file
(`fileAt_of_processRound_again`). A builder that was generated is found again. A builder that was not
generated in the first round is not in the second one either: what is in the way of writing its file does
not go away, whatever was written since (`Like.agrees`), and if the file of an earlier class was in its way,
it still is.

The second case needs the second round to claim what the first one claimed. It does so as far as the root
can be looked at (`Passes.filesOf_subset`); where it cannot, nothing is written anyway.
-/

namespace FluentBuilder.Processing

open Stateful Source Store Filing

variable {s : Surroundings} {e : Emitter} {d : Declaration} {b : Blueprint} {o o' : Outcome} {root p : Path}
variable {claimed claimed' : List Path} {before after : Store} {run run' : Run}

/-! ### What is claimed -/

namespace Passes

variable {ds : List Declaration} {outcomes : List Outcome} {progress progress' : Progress}

/-- The store develops. -/
theorem evolves (h : Passes s e ds progress run outcomes progress' run')
    (hrefs : Resolving.Sound s progress.refs) : Evolves (fun _ => True) run.store run'.store :=
  (completed_processAll hrefs (passes_iff.mpr ⟨progress', h⟩)).evolves.mono fun _ _ => trivial

/-- Claims stay. -/
theorem subset (h : Passes s e ds progress run outcomes progress' run')
    (hrefs : Resolving.Sound s progress.refs) : progress.paths ⊆ progress'.paths := by
  induction h with
  | nil => exact List.Subset.refl _
  | cons hone _ ih =>
    obtain ⟨hrefs', heffect⟩ := effect_of_processOne hrefs hone
    exact List.Subset.trans heffect.subset (ih hrefs')

/-- **The files of all builders are claimed**, if the root can be looked at in the end. -/
theorem filesOf_subset (h : Passes s e ds progress run outcomes progress' run')
    (hrefs : Resolving.Sound s progress.refs) (hroot : ∃ node, run'.store.look e.root = .ok node) :
    filesOf s e ds ⊆ progress'.paths := by
  induction h with
  | nil => exact List.nil_subset _
  | cons hone hrest ih =>
    obtain ⟨hrefs', heffect⟩ := effect_of_processOne hrefs hone
    intro p hp
    obtain ⟨c, hc, b, hb, rfl⟩ := mem_filesOf.mp hp
    rcases List.mem_cons.mp hc with rfl | hc
    · have hbefore := heffect.evolves.exists_look ((hrest.evolves hrefs').exists_look hroot)
      exact hrest.subset hrefs' ((judged_processOne hrefs hone).mem_claims hb hbefore)
    · exact ih hrefs' hroot (mem_filesOf.mpr ⟨c, hc, b, hb, rfl⟩)

/-- An outcome is that of a declaration, with others before it and behind it. -/
theorem exists_of_mem (h : Passes s e ds progress run outcomes progress' run') (ho : o ∈ outcomes) :
    ∃ front d back earlier later progressA progressB runA runB, ds = front ++ d :: back ∧
      Passes s e front progress run earlier progressA runA ∧
      exec (processOne s e d progressA) runA = (.ok (o, progressB), runB) ∧
      Passes s e back progressB runB later progress' run' := by
  induction h with
  | nil => cases ho
  | @cons d rest _ _ _ _ _ _ _ _ hone hrest ih =>
    rcases List.mem_cons.mp ho with rfl | ho
    · exact ⟨[], d, rest, [], _, _, _, _, _, rfl, .nil, hone, hrest⟩
    · obtain ⟨front, c, back, earlier, later, progressA, progressB, runA, runB, rfl, hfront, hlast, hback⟩ :=
        ih ho
      exact ⟨d :: front, c, back, _, later, progressA, progressB, runA, runB, rfl, .cons hone hfront, hlast,
        hback⟩

end Passes

/-! ### What is not written again -/

/-- What is generated had a builder, whose file held no such text. -/
theorem Judged.exists_of_generated (h : Judged s e d claimed before o claimed' after)
    (hstatus : o.status = .emitted .generated) :
    ∃ b existing, written? s d = some b ∧
      opened e.root claimed before (b.outputPath e.root) = some existing ∧ existing ≠ some b.render := by
  cases h with
  | invalid _ hinvalid => cases hinvalid.symm.trans hstatus
  | unbuilt _ _ hfailed => cases hfailed.symm.trans hstatus
  | @built b _ hkind hb hhandled =>
    refine ⟨b, ?_⟩
    cases hhandled with
    | unopened _ hfailed => cases hfailed.symm.trans hstatus
    | upToDate _ hunchanged => cases hunchanged.symm.trans hstatus
    | @drifted existing _ _ _ hdrifted =>
      have hother := hdrifted.symm.trans hstatus
      cases existing <;> cases hother
    | written _ hopened hother => exact ⟨_, written?_eq_some_iff.mpr ⟨hkind, hb⟩, hopened, hother⟩
    | unwritten _ _ _ _ _ hfailed => cases hfailed.symm.trans hstatus

/-- An outcome says that a builder was generated iff it was emitted so. -/
theorem outcomeOf_generated_iff {result : Except RunFault (Path × EmitStatus)} :
    (outcomeOf d b result).status = .emitted .generated ↔ ∃ path, result = .ok (path, .generated) := by
  rcases result with fault | ⟨path, status⟩
  · simp [outcomeOf, refusal, Outcome.without]
  · simp [outcomeOf]

section revisiting

/- A round has worked on a declaration with others before it and behind it, and a second round, at once
after it, has come to the same declaration. -/
variable {front back : List Declaration} {runA runB runC runZ runA' runB' : Run}
variable {earlier later earlier' : List Outcome} {progress next last progress' : Progress}
variable (hroot : Resolved root) (hsound : runA.store.Sound)
variable (hnames : ∀ c ∈ front ++ d :: back, Plain c) (hb : written? s d = some b)
variable (hfront : Passes s ⟨root, false⟩ front ⟨[], []⟩ runA earlier progress runB)
variable (hone : exec (processOne s ⟨root, false⟩ d progress) runB = (.ok (o, next), runC))
variable (hback : Passes s ⟨root, false⟩ back next runC later last runZ)
variable (hstore : runA'.store = runZ.store)
variable (hfront' : Passes s ⟨root, false⟩ front ⟨[], []⟩ runA' earlier' progress' runB')
variable (hfree' : b.outputPath root ∉ progress'.paths)

include hroot hsound hnames hb hfront hone hback hstore hfront' hfree'

/-- The file of the builder is found as it was left, unless an earlier class has claimed it. -/
theorem bytes_iff_of_revisited (bytes : List UInt8) :
    runB'.store.bytes (b.outputPath root) = .ok bytes ↔
      runC.store.bytes (b.outputPath root) = .ok bytes := by
  have hrefs := Resolving.sound_nil s
  obtain ⟨hplain, hd, hrest⟩ := List.forall_mem_append.mp hnames |>.imp_right List.forall_mem_cons.mp
  have hjudged := judged_processOne (hfront.sound_refs hrefs) hone
  obtain ⟨hnext, heffect⟩ := effect_of_processOne (hfront.sound_refs hrefs) hone
  have hsoundC := hjudged.sound (hfront.sound hrefs hsound)
  have hsoundZ := hback.sound hnext hsoundC
  have hbelow := below_of_builderOf? hd.1 (written?_eq_some_iff.mp hb).2 root
  have hsecond := hfront'.since (fun c hc => (hplain c hc).1) hrefs
    (Since.refl (hstore ▸ hsoundZ.rooted) hroot.not_up : Since root runA'.store [] runA'.store)
  have htaken : Taken root (b.outputPath root) next.paths runC.store := Taken.of_judged hjudged hb heffect
  rw [hsecond.bytes_iff (.inr hbelow) hfree' bytes, hstore]
  exact htaken.bytes_iff hbelow hroot.not_up hsoundC.rooted (fun c hc => (hrest c hc).1) hnext
    (passes_iff.mpr ⟨last, hback⟩) bytes

/-- Where the builder was not generated, it is emitted as it was. -/
theorem like_of_revisited (hstatus : o.status ≠ .emitted .generated) :
    Like root (b.outputPath root) runB.store runB'.store := by
  have hrefs := Resolving.sound_nil s
  obtain ⟨hplain, hd, hrest⟩ := List.forall_mem_append.mp hnames |>.imp_right List.forall_mem_cons.mp
  have hbuilder := (written?_eq_some_iff.mp hb).2
  have htarget := target_outputPath hd hbuilder hroot
  have hjudged := judged_processOne (hfront.sound_refs hrefs) hone
  obtain ⟨hnext, heffect⟩ := effect_of_processOne (hfront.sound_refs hrefs) hone
  have hsoundB := hfront.sound hrefs hsound
  have hsoundZ := hback.sound hnext (hjudged.sound hsoundB)
  -- The files of all builders may have been written in between.
  have hextended : Extended (filesOf s ⟨root, false⟩ (front ++ d :: back)) runB.store runB'.store := by
    have hlater := extended_processAll hrest hroot hnext (passes_iff.mpr ⟨last, hback⟩)
    have hagain := extended_processAll hplain hroot hrefs (passes_iff.mpr ⟨progress', hfront'⟩)
    rw [hstore] at hagain
    exact ((hjudged.extended hd hroot).mono (filesOf_mono (by simp))).trans
      ((hlater.mono (filesOf_mono (by simp))).trans (hagain.mono (filesOf_mono (by simp))))
  have hbefore := hfront.since (fun c hc => (hplain c hc).1) hrefs
    (Since.refl hsound.rooted hroot.not_up : Since root runA.store [] runA.store)
  have hend := hback.since (fun c hc => (hrest c hc).1) hnext (hbefore.step hd.1 heffect)
  have hsecond := hfront'.since (fun c hc => (hplain c hc).1) hrefs
    (Since.refl (hstore ▸ hsoundZ.rooted) hroot.not_up : Since root runA'.store [] runA'.store)
  exact {
    target := htarget
    rooted := hsoundB.rooted
    rooted' := (hfront'.sound hrefs (hstore ▸ hsoundZ)).rooted
    evolves := (heffect.evolves.mono fun _ _ => trivial).trans
      ((hback.evolves hnext).trans (hstore ▸ hfront'.evolves hrefs))
    alike := alike_of_extended hextended fun q hq => by
      obtain ⟨c, hc, b', hb', rfl⟩ := mem_filesOf.mp hq
      exact apart_of_builderOf? hd hbuilder (hnames c hc) (written?_eq_some_iff.mp hb').2 root
    bytes_iff := fun bytes => by
      rw [bytes_iff_of_revisited hroot hsound hnames hb hfront hone hback hstore hfront' hfree']
      exact (hjudged.bytes hb hsoundB.rooted htarget.path.not_up).2 hstatus bytes
    blocked_iff := by rw [hsecond.blocked_iff, hstore, hend.blocked_iff, hbefore.blocked_iff] }

end revisiting

/-- **A builder is not generated twice**, in a round and in another one, at once after it, over the same
declarations. -/
theorem not_generated_twice {front back : List Declaration} (hroot : Resolved root)
    {runA runB runC runZ runA' runB' runC' : Run} (hsound : runA.store.Sound)
    (hnames : ∀ c ∈ front ++ d :: back, Plain c)
    (htext : ∀ b, builderOf? s d = some b → '\r' ∉ b.render.toList)
    {earlier later earlier' : List Outcome} {progress next last progress' next' : Progress}
    (hfront : Passes s ⟨root, false⟩ front ⟨[], []⟩ runA earlier progress runB)
    (hone : exec (processOne s ⟨root, false⟩ d progress) runB = (.ok (o, next), runC))
    (hback : Passes s ⟨root, false⟩ back next runC later last runZ)
    (hstore : runA'.store = runZ.store)
    (hfront' : Passes s ⟨root, false⟩ front ⟨[], []⟩ runA' earlier' progress' runB')
    (hone' : exec (processOne s ⟨root, false⟩ d progress') runB' = (.ok (o', next'), runC')) :
    o'.status ≠ .emitted .generated := by
  intro hgenerated
  have hrefs := Resolving.sound_nil s
  obtain ⟨b, existing, hb, hopened, hother⟩ :=
    (judged_processOne (hfront'.sound_refs hrefs) hone').exists_of_generated hgenerated
  obtain ⟨hlook, hfree', htext'⟩ := opened_eq_some_iff.mp hopened
  by_cases hstatus : o.status = .emitted .generated
  · -- It is found again.
    have hd : Plain d := hnames d (List.mem_append_right _ List.mem_cons_self)
    have hbuilder := (written?_eq_some_iff.mp hb).2
    have hwritten := (judged_processOne (hfront.sound_refs hrefs) hone).bytes hb
      (hfront.sound hrefs hsound).rooted (target_outputPath hd hbuilder hroot).path.not_up
    have hbytes := (bytes_iff_of_revisited hroot hsound hnames hb hfront hone hback hstore hfront' hfree' _).mpr
      (hwritten.1 hstatus)
    have hfound := textAt_eq_some_iff.mpr ⟨_, hbytes, Running.textOf_encode (htext b hbuilder)⟩
    exact hother (Except.ok.inj (htext'.symm.trans hfound))
  · -- The file was free in the first round, too, and what was in the way of writing it still is.
    have hfirst : b.outputPath root ∉ filesOf s ⟨root, false⟩ front := fun hmem =>
      hfree' (hfront'.filesOf_subset hrefs hlook hmem)
    have houtcome : o = outcomeOf d b (emission root false b runB.store) :=
      outcome_of_processOne (e := ⟨root, false⟩) (hfront.sound_refs hrefs) hb (hfront.free hfirst) hone
    have houtcome' : o' = outcomeOf d b (emission root false b runB'.store) :=
      outcome_of_processOne (e := ⟨root, false⟩) (hfront'.sound_refs hrefs) hb hfree' hone'
    rw [houtcome', outcomeOf_generated_iff] at hgenerated
    obtain ⟨path, hemitted⟩ := hgenerated
    have hlike :=
      like_of_revisited hroot hsound hnames hb hfront hone hback hstore hfront' hfree' hstatus
    rcases hlike.agrees with hsame | ⟨path, path', -, hfailed⟩
    · rw [houtcome, outcomeOf_generated_iff, ← hsame] at hstatus
      exact hstatus ⟨path, hemitted⟩
    · cases hfailed.symm.trans hemitted

/-! ### Rounds -/

/-- **A round that is repeated at once changes no file**, whether it writes or only checks. -/
theorem fileAt_of_processRound_again {check : Bool} {tree : Tree} {isLast isLast' : Bool}
    (hroot : Resolved root) (hsound : run.store.Sound) (hnames : ∀ d ∈ tree.marked, Plain d)
    (htexts : ∀ d ∈ tree.marked, ∀ b, builderOf? (.ofTree tree) d = some b → '\r' ∉ b.render.toList)
    {result result' : RoundResult} {run₁ run₂ : Run}
    (hfirst : exec (processRound ⟨root, false⟩ tree isLast) run = (.ok result, run₁))
    (hstore : run'.store = run₁.store)
    (hagain : exec (processRound ⟨root, check⟩ tree isLast') run' = (.ok result', run₂)) (place : Place) :
    run₂.store.fileAt place = run'.store.fileAt place := by
  cases check with
  | true =>
    have hleaves := LeavesFiles.processRound root tree isLast' run'
    rw [hagain] at hleaves
    rw [show run₂.store = run'.store from hleaves]
  | false =>
    obtain ⟨runA, hcontinues, hall⟩ := exec_processRound_ok hfirst
    obtain ⟨runA', hcontinues', hall'⟩ := exec_processRound_ok hagain
    obtain ⟨last, hpasses⟩ := passes_iff.mp hall
    obtain ⟨last', hpasses'⟩ := passes_iff.mp hall'
    have hevolves := (completed_processAll (Resolving.sound_nil _) hall').evolves
    rw [hevolves.fileAt_eq place ?_, hcontinues'.store_eq]
    rintro ⟨o', ho', hstatus, -⟩
    obtain ⟨front, d, back, earlier', -, progress', next', runB', runC', hsplit, hfront', hone', -⟩ :=
      hpasses'.exists_of_mem ho'
    rw [hsplit] at hpasses
    obtain ⟨earlier, progress, runB, others, hfront, hrest, -⟩ := Passes.append_iff.mp hpasses
    cases hrest with
    | cons hone hback =>
    have hd : d ∈ tree.marked := hsplit ▸ List.mem_append_right _ List.mem_cons_self
    exact not_generated_twice hroot (hcontinues.store_eq ▸ hsound) (hsplit ▸ hnames) (htexts d hd) hfront hone
      hback (hcontinues'.store_eq.trans hstore) hfront' hone' hstatus

end FluentBuilder.Processing
