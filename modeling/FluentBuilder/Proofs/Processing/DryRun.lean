import FluentBuilder.Proofs.Processing.Halting
import FluentBuilder.Proofs.Processing.Verdict

/-!
# What a check foretells

A round that only checks files changes none, and its outcomes foretell those of a round that writes from
the same files on (`foretells_processRound`): what is unchanged, invalid or failed is so in both, and
what is stale or missing is generated, unless it cannot be written.

**The route.** Both rounds are followed side by side. The one that writes has changed files meanwhile,
but only such as it claimed itself, and so a file that is still free is found as it was (`Since`). Both
claim the same files as long as the root can be looked at (`Abreast`).

**Names that are too long.** A path through a directory that is missing is found to be free, whatever
comes behind. When the directory has been made for another builder, a name behind it may turn out to be
too long, so that the path cannot even be looked at. Writing the file would have failed as well, then
(`Filing.writeWhole_of_look_error`).
-/

namespace FluentBuilder.Processing

open Stateful Source Store

variable {s : Surroundings} {d : Declaration} {b : Blueprint} {c w : Outcome} {root p : Path}
variable {before now next after : Store} {checked written checked' written' : List Path}

/-! ### Checking changes no file -/

/-- A part leaves the files alone, whether it fails or not. -/
def LeavesFiles {α : Type} (part : Running α) : Prop :=
  Keeps (fun run run' : Run => run'.store = run.store) part

namespace LeavesFiles

variable {α β : Type} {part : Running α}

/-- A part that does nothing leaves the files alone. -/
theorem pure (a : α) : LeavesFiles (pure a : Running α) := fun _ => rfl

/-- A part that fails leaves the files alone. -/
theorem throw (fault : RunFault) : LeavesFiles (throw fault : Running α) := fun _ => rfl

/-- A look leaves the files alone. -/
theorem look (f : Store → Except StoreFault α) : LeavesFiles (Running.look f) := fun _ => rfl

/-- A part that goes on leaves the files alone. -/
theorem of_continues (h : ∀ run, ∃ a run' errors, exec part run = (.ok a, run') ∧
    Run.Continues errors run run') : LeavesFiles part := by
  intro run
  obtain ⟨a, run', errors, hpart, hcontinues⟩ := h run
  rw [hpart]
  exact hcontinues.store_eq

/-- One part after another leaves the files alone if both do. -/
theorem bind {next : α → Running β} (h : LeavesFiles part) (hnext : ∀ a, LeavesFiles (next a)) :
    LeavesFiles (part >>= next) :=
  Keeps.bind (fun _ _ _ hfirst hsecond => hsecond.trans hfirst) h hnext

/-- A part whose fault is kept as a value leaves the files alone if it does. -/
theorem attempt (h : LeavesFiles part) : LeavesFiles (attempt part) := fun run => h run

/-- A note leaves the files alone. -/
theorem note (message : String) (element : Option Declaration) :
    LeavesFiles (Running.note message element) :=
  of_continues fun run =>
    have ⟨run', hnote, hcontinues⟩ := Running.exec_note message element run
    ⟨(), run', [], hnote, hcontinues⟩

/-- An error leaves the files alone. -/
theorem error (message : String) (element : Option Declaration) (kind location : Option String) :
    LeavesFiles (Running.error message element kind location) :=
  of_continues fun run =>
    have ⟨diagnostic, run', herror, _, hcontinues⟩ :=
      Running.exec_error message element kind location run
    ⟨diagnostic, run', [diagnostic], herror, hcontinues⟩

/-- Describing a class leaves the files alone. -/
theorem describe (s : Surroundings) (d : Declaration) (refs : Table TypeRef) :
    LeavesFiles (describe s d refs) := by
  refine bind (of_continues fun run => ?_) fun _ => pure _
  obtain ⟨run', hlogs, hcontinues⟩ := exec_forM Run.Continues.refl (fun _ _ _ h h' => h.trans h') _
    (fun _ run => Running.exec_log _ _ _ run) _ run
  exact ⟨_, run', [], hlogs, hcontinues⟩

/-- The path of a builder is found without changing files. -/
theorem emitPath (root : Path) (b : Blueprint) : LeavesFiles (emitPath root b) := by
  refine bind (bind (look _) fun there => bind (look _) fun directory => ?_) fun _ => pure _
  split
  · exact throw _
  · exact pure _

/-- Claiming the file of a builder changes no file. -/
theorem writeBuilder (e : Emitter) (d : Declaration) (schema : Schema)
    (claimed : List (Path × String)) : LeavesFiles (writeBuilder e d schema claimed) := by
  refine bind (note _ _) fun _ => bind (fun _ => rfl) fun b => bind (emitPath _ _) fun path => ?_
  split
  · exact bind (error _ _ _ _) fun _ => pure _
  · exact bind (note _ _) fun _ => pure _

/-- A builder that is only checked changes no file. -/
theorem emit (root : Path) (b : Blueprint) : LeavesFiles (emit root true b) := by
  refine bind (emitPath root b) fun path => bind (fun run => ?_) fun existing =>
    bind (fun run => ?_) fun _ => pure _
  · rw [exec_existingText_eq]
  · rw [exec_settle]
    split
    · rfl
    · rfl

/-- The outcome of a class that has failed changes no file. -/
theorem failedOutcome (d : Declaration) (fault : RunFault) : LeavesFiles (failedOutcome d fault) := by
  unfold Processing.failedOutcome
  split
  · exact bind (error _ _ _ _) fun _ => pure _
  · exact throw _

/-- The outcome of a builder changes no file. -/
theorem emittedOutcome (d : Declaration) (b : Blueprint) (path : Path) (status : EmitStatus) :
    LeavesFiles (emittedOutcome d b path status) :=
  of_continues fun run =>
    have ⟨o, run', hemitted, hreports, _, _⟩ := exec_emittedOutcome d b path status run
    ⟨o, run', _, hemitted, hreports.continues⟩

/-- A declaration that is only checked changes no file. -/
theorem processOne (s : Surroundings) (root : Path) (d : Declaration) (progress : Progress) :
    LeavesFiles (processOne s ⟨root, true⟩ d progress) := by
  unfold Processing.processOne
  simp only
  split
  · refine bind (describe s d _) fun described => ?_
    rcases described with ⟨fault | schema, refs⟩
    · exact bind (failedOutcome d _) fun _ => pure _
    · refine bind (attempt (writeBuilder _ d _ _)) fun result => ?_
      split
      · exact bind (failedOutcome d _) fun _ => pure _
      · exact pure _
      · refine bind (attempt (emit root _)) fun emitted => ?_
        split
        · exact bind (failedOutcome d _) fun _ => pure _
        · exact bind (emittedOutcome d _ _ _) fun _ => pure _
  · exact bind (bind (error _ _ _ _) fun _ => pure _) fun _ => pure _

/-- Declarations that are only checked change no file. -/
theorem processAll (s : Surroundings) (root : Path) (progress : Progress) (ds : List Declaration) :
    LeavesFiles (processAll s ⟨root, true⟩ progress ds) := by
  induction ds generalizing progress with
  | nil => exact pure _
  | cons d rest ih =>
    exact bind (processOne s root d progress) fun (_, progress') =>
      bind (ih progress') fun _ => pure _

/-- **A round that only checks changes no file**, whether it has outcomes or not. -/
theorem processRound (root : Path) (tree : Tree) (isLast : Bool) :
    LeavesFiles (processRound ⟨root, true⟩ tree isLast) := by
  intro run
  obtain ⟨run₁, hcontinues, hround⟩ := exec_processRound ⟨root, true⟩ tree isLast run
  rw [hround, ← hcontinues.store_eq, map_eq_pure_bind]
  exact bind (processAll _ root _ _) (fun _ => pure _) run₁

end LeavesFiles

/-! ### What an outcome foretells -/

/-- A check reports that the file of a builder is stale or missing. -/
def Outcome.Drifts (o : Outcome) : Prop :=
  o.status = .emitted .stale ∨ o.status = .emitted .missing

/-- The file of a declaration's builder cannot be written: the file system refuses it. -/
def Refused (s : Surroundings) (root : Path) (d : Declaration) (now : Store) : Prop :=
  ∃ b fault after, builderOf? s d = some b ∧ fault.Systemic ∧
    exec (Filing.writeWhole (b.outputPath root) (Utf8.encode b.render)) now = (.error fault, after)

/-- What the outcome `c` of a check over the files `before` says about the outcome `w` of a round that
writes, which has come to the files `now`. -/
structure Foretells (s : Surroundings) (root : Path) (d : Declaration) (before now : Store)
    (c w : Outcome) : Prop where
  /-- What is unchanged is so in both. -/
  unchanged_iff : c.status = .emitted .unchanged ↔ w.status = .emitted .unchanged
  /-- What is invalid is so in both. -/
  invalid_iff : c.status = .invalid ↔ w.status = .invalid
  /-- What has failed fails. -/
  failed : c.status = .failed → w.status = .failed
  /-- What drifts is generated, or cannot be written. -/
  drifts : c.Drifts → w.status = .emitted .generated ∨ w.status = .failed ∧ Refused s root d now
  /-- What is generated drifts. -/
  of_generated : w.status = .emitted .generated → c.Drifts
  /-- What drifts is missing, and not stale, iff no file stood at the path. -/
  missing_iff : c.Drifts → ∃ path, c.path = some path ∧
    (c.status = .emitted .missing ↔ ∀ bytes, before.bytes path ≠ .ok bytes)
  /-- Where a text is there in the end, it is at the path that the check reports. -/
  path_eq : w.isOk = true → w.path = c.path

namespace Foretells

/-- What is invalid in both. -/
theorem of_invalid (hc : c.status = .invalid) (hw : w.status = .invalid) :
    Foretells s root d before now c w := by
  constructor <;> simp [Outcome.Drifts, Outcome.isOk, Status.isOk, hc, hw]

/-- What has failed in both. -/
theorem of_failed (hc : c.status = .failed) (hw : w.status = .failed) :
    Foretells s root d before now c w := by
  constructor <;> simp [Outcome.Drifts, Outcome.isOk, Status.isOk, hc, hw]

/-- What is unchanged in both. -/
theorem of_unchanged (hc : c.status = .emitted .unchanged) (hw : w.status = .emitted .unchanged)
    (hpath : w.path = c.path) : Foretells s root d before now c w := by
  constructor <;> simp [Outcome.Drifts, hc, hw, hpath]

/-- What drifts and is written, or cannot be. -/
theorem of_drift {existing : Option String} {path : Path}
    (hc : c.status = .emitted (if existing.isNone then .missing else .stale))
    (hpath : c.path = some path) (hexisting : textAt before path = .ok existing)
    (hw : w.status = .emitted .generated ∧ w.path = some path ∨
      w.status = .failed ∧ Refused s root d now) : Foretells s root d before now c w := by
  have hdrifts : c.Drifts := by
    rw [Outcome.Drifts, hc]
    cases existing <;> simp
  have hstatus : c.status ≠ .emitted .unchanged ∧ c.status ≠ .invalid ∧ c.status ≠ .failed := by
    rcases hdrifts with h | h <;> simp [h]
  have hmissing : c.status = .emitted .missing ↔ ∀ bytes, before.bytes path ≠ .ok bytes := by
    rw [hc]
    cases existing with
    | none => simpa using (textAt_eq_none_iff.mp hexisting).2
    | some text =>
      obtain ⟨bytes, hbytes, -⟩ := textAt_eq_some_iff.mp hexisting
      simpa using ⟨bytes, hbytes⟩
  rcases hw with ⟨hw, hwpath⟩ | ⟨hw, hrefused⟩
  · constructor <;> simp [hw, hstatus, hdrifts, hpath, hwpath, hmissing]
  · constructor <;> simp [Outcome.isOk, Status.isOk, hw, hstatus, hdrifts, hpath, hmissing, hrefused]

end Foretells

/-! ### Side by side -/

/-- How far two rounds have come that began with the same files, one that checks and one that writes:
the second one has changed only what it claimed, and both have claimed the same, unless the root cannot
be looked at any more. -/
structure Abreast (root : Path) (before : Store) (checked written : List Path) (now : Store) : Prop where
  /-- What the second one has changed. -/
  since : Since root before written now
  /-- What both have claimed. -/
  claims_eq : (∃ node, now.look root = .ok node) → checked = written

namespace Abreast

/-- Nothing has been claimed at the beginning. -/
theorem refl (hrooted : before.Rooted) (hroot : ".." ∉ root.parts) : Abreast root before [] [] before :=
  ⟨Since.refl hrooted hroot, fun _ => rfl⟩

/-- What is found by the round that writes was there to be found by the one that checks. -/
theorem opened_before (h : Abreast root before checked written now) (hp : Path.Below root p)
    {existing : Option String} (hopened : opened root written now p = some existing) :
    opened root checked before p = some existing := by
  obtain ⟨hroot, hfree, htext⟩ := opened_eq_some_iff.mp hopened
  refine opened_eq_some_iff.mpr ⟨h.since.evolves.exists_look hroot, h.claims_eq hroot ▸ hfree, ?_⟩
  cases existing with
  | some text =>
    obtain ⟨bytes, hbytes, hdecoded⟩ := textAt_eq_some_iff.mp htext
    exact textAt_eq_some_iff.mpr ⟨bytes, (h.since.bytes_iff (.inr hp) hfree bytes).mp hbytes, hdecoded⟩
  | none =>
    obtain ⟨hlook, hnone⟩ := textAt_eq_none_iff.mp htext
    refine textAt_eq_none_iff.mpr ⟨h.since.evolves.exists_look hlook, fun bytes hbytes => ?_⟩
    exact hnone bytes ((h.since.bytes_iff (.inr hp) hfree bytes).mpr hbytes)

/-- What is found by the round that checks is found by the one that writes, unless no file stood there
and the path or the root cannot be looked at any more. -/
theorem opened_now (h : Abreast root before checked written now) (hp : Path.Below root p)
    {existing : Option String} (hopened : opened root checked before p = some existing) :
    opened root written now p = some existing ∨
      opened root written now p = none ∧ existing = none ∧
        ∃ q fault, (p = q ∨ Path.Below q p) ∧ now.look q = .error fault := by
  obtain ⟨hroot, hfree, htext⟩ := opened_eq_some_iff.mp hopened
  rcases hnow : now.look root with fault | node
  · refine .inr ⟨by rw [opened, hnow], ?_, root, fault, .inr hp, hnow⟩
    -- Where a file is found, the root is found, and stays so.
    by_contra hsome
    obtain ⟨text, rfl⟩ := Option.ne_none_iff_exists'.mp hsome
    obtain ⟨bytes, hbytes, -⟩ := textAt_eq_some_iff.mp htext
    obtain ⟨node, hnode⟩ := h.since.evolves.exists_look_of_below hp hbytes
    cases hnow.symm.trans hnode
  have hfree' : p ∉ written := h.claims_eq ⟨node, hnow⟩ ▸ hfree
  have hbytes := h.since.bytes_iff (.inr hp) hfree'
  cases existing with
  | some text =>
    obtain ⟨bytes, hread, hdecoded⟩ := textAt_eq_some_iff.mp htext
    exact .inl (opened_eq_some_iff.mpr ⟨⟨node, hnow⟩, hfree',
      textAt_eq_some_iff.mpr ⟨bytes, (hbytes bytes).mpr hread, hdecoded⟩⟩)
  | none =>
    rcases hlook : now.look p with fault | node'
    · refine .inr ⟨?_, rfl, p, fault, .inl rfl, hlook⟩
      refine Option.eq_none_iff_forall_ne_some.mpr fun existing hfound => ?_
      obtain ⟨-, -, hread⟩ := opened_eq_some_iff.mp hfound
      rw [textAt, hlook] at hread
      cases hread
    · obtain ⟨-, hnone⟩ := textAt_eq_none_iff.mp htext
      exact .inl (opened_eq_some_iff.mpr ⟨⟨node, hnow⟩, hfree',
        textAt_eq_none_iff.mpr ⟨⟨node', hlook⟩, fun bytes hread => hnone bytes ((hbytes bytes).mp hread)⟩⟩)

/-- The outcomes about a builder fit. -/
theorem foretells_of_handled (h : Abreast root before checked written now)
    (hb : builderOf? s d = some b) (hp : Path.Below root (b.outputPath root))
    (hnull : hasNull (b.outputPath root) = false)
    (hcheck : Handled ⟨root, true⟩ b checked before c after)
    (hwrite : Handled ⟨root, false⟩ b written now w next) : Foretells s root d before now c w := by
  cases hcheck with
  | unopened hopened hc =>
    refine .of_failed hc (hwrite.status_of_unopened ?_)
    refine Option.eq_none_iff_forall_ne_some.mpr fun existing hfound => ?_
    cases hopened.symm.trans (h.opened_before hp hfound)
  | upToDate hopened hc hnames =>
    rcases h.opened_now hp hopened with hfound | ⟨-, hnone, -⟩
    · obtain ⟨hw, hnames', -⟩ := hwrite.unchanged_of_opened hfound
      exact .of_unchanged hc hw (hnames'.path_eq.trans hnames.path_eq.symm)
    · cases hnone
  | drifted _ hopened hother hc hnames =>
    obtain ⟨-, -, htext⟩ := opened_eq_some_iff.mp hopened
    refine .of_drift hc hnames.path_eq htext ?_
    rcases h.opened_now hp hopened with hfound | ⟨hfound, -, q, fault, hq, hlook⟩
    · rcases hwrite.written_of_opened rfl hfound hother with
        ⟨hw, hnames'⟩ | ⟨hw, fault, hsystemic, hrefused⟩
      · exact .inl ⟨hw, hnames'.path_eq⟩
      · exact .inr ⟨hw, b, fault, _, hb, hsystemic, hrefused⟩
    · -- Nothing was written, and it could not have been.
      obtain ⟨reason, after, hrefused⟩ :=
        Filing.writeWhole_of_look_error hq hlook (Utf8.encode b.render)
      exact .inr ⟨hwrite.status_of_unopened hfound, b, reason, after, hb,
        Filing.failsWith_writeWhole hnull _ _ _ _ hrefused, hrefused⟩
  | written hfalse => cases hfalse
  | unwritten hfalse => cases hfalse

/-- **The outcomes about a declaration fit.** -/
theorem foretells (h : Abreast root before checked written now) (hslash : '/' ∉ d.qualifiedName.toList)
    (hzero : '\x00' ∉ d.qualifiedName.toList) (hnull : hasNull root = false)
    (hcheck : Judged s ⟨root, true⟩ d checked before c checked' after)
    (hwrite : Judged s ⟨root, false⟩ d written now w written' next) :
    Foretells s root d before now c w := by
  cases hcheck with
  | invalid hkind hc =>
    cases hwrite with
    | invalid _ hw => exact .of_invalid hc hw
    | unbuilt hkind' => exact absurd hkind' hkind
    | built hkind' => exact absurd hkind' hkind
  | unbuilt hkind hb hc =>
    cases hwrite with
    | invalid hkind' => exact absurd hkind hkind'
    | unbuilt _ _ hw => exact .of_failed hc hw
    | built _ hb' => cases hb.symm.trans hb'
  | built hkind hb hhandled =>
    cases hwrite with
    | invalid hkind' => exact absurd hkind hkind'
    | unbuilt _ hb' => cases hb.symm.trans hb'
    | built _ hb' hhandled' =>
      obtain rfl := Option.some.inj (hb.symm.trans hb')
      exact h.foretells_of_handled hb (below_of_builderOf? hslash hb root)
        (hasNull_of_builderOf? hslash hzero hb hnull) hhandled hhandled'

/-- Both claim the same file, as long as the root can be looked at. -/
theorem claims_next (h : Abreast root before checked written now)
    (hroot : ∃ node, now.look root = .ok node)
    (hcheck : Judged s ⟨root, true⟩ d checked before c checked' after)
    (hwrite : Judged s ⟨root, false⟩ d written now w written' next) : checked' = written' := by
  have hclaims := h.claims_eq hroot
  cases hcheck with
  | invalid hkind =>
    cases hwrite with
    | invalid => exact hclaims
    | unbuilt hkind' => exact absurd hkind' hkind
    | built hkind' => exact absurd hkind' hkind
  | unbuilt hkind hb =>
    cases hwrite with
    | invalid => exact hclaims
    | unbuilt => exact hclaims
    | built _ hb' => cases hb.symm.trans hb'
  | built hkind hb =>
    cases hwrite with
    | invalid hkind' => exact absurd hkind hkind'
    | unbuilt _ hb' => cases hb.symm.trans hb'
    | built _ hb' =>
      obtain rfl := Option.some.inj (hb.symm.trans hb')
      obtain ⟨node, hnode⟩ := hroot
      obtain ⟨node', hnode'⟩ := h.since.evolves.exists_look ⟨node, hnode⟩
      rw [claimsWith, claimsWith, hnode, hnode', hclaims]

/-- The work on a declaration leaves the rounds side by side. -/
theorem step (h : Abreast root before checked written now) (hslash : '/' ∉ d.qualifiedName.toList)
    (hcheck : Judged s ⟨root, true⟩ d checked before c checked' after)
    (hwrite : Judged s ⟨root, false⟩ d written now w written' next)
    (heffect : Effect s ⟨root, false⟩ d written now w written' next) :
    Abreast root before checked' written' next where
  since := h.since.step hslash heffect
  claims_eq := fun hroot => h.claims_next (heffect.evolves.exists_look hroot) hcheck hwrite

end Abreast

/-! ### Rounds -/

/-- The files that the work on some declarations leaves behind. -/
def LeavesBehind (s : Surroundings) (e : Emitter) (progress : Progress) (ds : List Declaration)
    (run : Run) (now : Store) : Prop :=
  ∃ outcomes run', exec (processAll s e progress ds) run = (.ok outcomes, run') ∧ run'.store = now

/-- A round comes to the marked declaration of a number with these files: there may have been a note, and
the declarations before it have been worked on. -/
def ComesTo (e : Emitter) (tree : Tree) (i : Nat) (run : Run) (now : Store) : Prop :=
  ∃ run₁, Run.Continues [] run run₁ ∧
    LeavesBehind (Surroundings.ofTree tree) e ⟨[], []⟩ (tree.marked.take i) run₁ now

/-- The outcomes of declarations foretell each other, one by one. -/
theorem foretells_processAll (hnull : hasNull root = false) {ds : List Declaration}
    (hnames : ∀ d ∈ ds, '/' ∉ d.qualifiedName.toList ∧ '\x00' ∉ d.qualifiedName.toList)
    {progress progress' : Progress} (hrefs : Resolving.Sound s progress.refs)
    (hrefs' : Resolving.Sound s progress'.refs) {run run' after after' : Run}
    (h : Abreast root run.store progress.paths progress'.paths run'.store)
    {checks writes : List Outcome}
    (hchecks : exec (processAll s ⟨root, true⟩ progress ds) run = (.ok checks, after))
    (hwrites : exec (processAll s ⟨root, false⟩ progress' ds) run' = (.ok writes, after'))
    {i : Nat} {d : Declaration} (hd : ds[i]? = some d) :
    ∃ c w now, checks[i]? = some c ∧ writes[i]? = some w ∧
      LeavesBehind s ⟨root, false⟩ progress' (ds.take i) run' now ∧
      Foretells s root d run.store now c w := by
  induction ds generalizing progress progress' run run' checks writes i with
  | nil => cases hd
  | cons first rest ih =>
    obtain ⟨⟨hslash, hzero⟩, hothers⟩ := List.forall_mem_cons.mp hnames
    obtain ⟨c, progress₁, run₁, checks, hcheck, hchecks', rfl⟩ := exec_processAll_cons_iff.mp hchecks
    obtain ⟨w, progress₂, run₂, writes, hwrite, hwrites', rfl⟩ := exec_processAll_cons_iff.mp hwrites
    have hjudged := judged_processOne hrefs hcheck
    have hjudged' := judged_processOne hrefs' hwrite
    cases i with
    | zero =>
      obtain rfl := Option.some.inj hd
      exact ⟨c, w, run'.store, rfl, rfl, ⟨[], run', rfl, rfl⟩,
        h.foretells hslash hzero hnull hjudged hjudged'⟩
    | succ i =>
      have hstore : run₁.store = run.store := by
        have hleaves := LeavesFiles.processOne s root first progress run
        rw [hcheck] at hleaves
        exact hleaves
      obtain ⟨hsound, heffect⟩ := effect_of_processOne hrefs' hwrite
      have hnext := h.step hslash hjudged hjudged' heffect
      rw [← hstore] at hnext
      obtain ⟨c', w', now, hc', hw', ⟨outcomes, run₃, hcomes, hnow⟩, hforetells⟩ :=
        ih hothers (effect_of_processOne hrefs hcheck).1 hsound hnext hchecks' hwrites' hd
      rw [hstore] at hforetells
      refine ⟨c', w', now, hc', hw', ⟨w :: outcomes, run₃, ?_, hnow⟩, hforetells⟩
      exact exec_processAll_cons_iff.mpr ⟨w, progress₂, run₂, outcomes, hwrite, hcomes, rfl⟩

/-- Another text stands where the builder of the first class of the garage is to be. -/
def outdated : Store :=
  ⟨[(["out"], .directory), (["out", "CarBuilder.py"], .file [0x6f, 0x6c, 0x64])], [], "/root"⟩

end FluentBuilder.Processing
