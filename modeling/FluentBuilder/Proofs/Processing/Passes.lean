import FluentBuilder.Proofs.Processing.DryRun
import FluentBuilder.Proofs.Processing.Footprint
import FluentBuilder.Proofs.Text.CodePoints

/-!
# Rounds in parts

The outcome of a class whose file is free is made from what comes of emitting its builder
(`outcome_of_processOne`). A round is the work on some declarations and then on the others (`Passes`), so
that a declaration can be looked at where it stands. From the work on a class on its file is taken
(`Taken`): no later declaration can open it, and it stays as it is.
-/

namespace FluentBuilder.Processing

open Stateful Source Store Filing

variable {s : Surroundings} {e : Emitter} {d d' : Declaration} {b : Blueprint} {o : Outcome} {root p : Path}
variable {claimed claimed' : List Path} {store before after : Store} {run run' : Run}

/-! ### The outcome of a class by itself -/

/-- The outcome of a class that is refused for a fault. -/
def refusal (d : Declaration) (fault : RunFault) : Outcome :=
  .without d.qualifiedName .failed (.make .error ("Cannot generate builder for " ++ d.qualifiedName ++ ": " ++
    fault.message) (some d) none none)

/-- A refusal is a failure. -/
theorem status_refusal (d : Declaration) (fault : RunFault) : (refusal d fault).status = .failed := rfl

/-- Refusals tell paths apart that end in different plain characters. -/
theorem diagnostic_refusal_ne {path path' : String} {front front' : List Char} {c c' : Char}
    (hpath : path.toList = front ++ [c]) (hpath' : path'.toList = front' ++ [c']) (hc : Quoted.IsPlain c)
    (hc' : Quoted.IsPlain c') (hne : c ≠ c') :
    (refusal d (.store (.nameTooLong path))).diagnostic ≠
      (refusal d' (.store (.nameTooLong path'))).diagnostic := by
  have hends : ∀ {path : String} {front : List Char} {c : Char} (d : Declaration),
      path.toList = front ++ [c] → Quoted.IsPlain c → ∃ before quote,
        (refusal d (.store (.nameTooLong path))).diagnostic.map (fun m => m.message.toList) =
          some (before ++ [c, quote]) := by
    intro path front c d hpath hc
    obtain ⟨before, quote, htext⟩ := Quoted.exists_toList_text (front.map Char.toNat) hc
    have hpoints : CodePoints.ofText path = front.map Char.toNat ++ [c.toNat] := by
      rw [CodePoints.ofText, hpath, List.map_append, List.map_singleton]
    refine ⟨("Cannot generate builder for " ++ d.qualifiedName ++ ": ").toList ++
      ("[Errno 36] File name too long: ".toList ++ before), quote, ?_⟩
    rw [List.append_assoc, List.append_assoc, ← htext, ← hpoints, ← String.toList_append,
      ← String.toList_append]
    rfl
  intro heq
  obtain ⟨before, quote, hmessage⟩ := hends d hpath hc
  obtain ⟨before', quote', hmessage'⟩ := hends d' hpath' hc'
  rw [heq, hmessage'] at hmessage
  -- The character before the quote is the same.
  have hlast := congrArg (fun cs : List Char => cs.reverse.tail.head?) (Option.some.inj hmessage)
  simp only [List.reverse_append, List.reverse_cons, List.reverse_nil, List.nil_append, List.cons_append,
    List.tail_cons, List.head?_cons] at hlast
  exact hne (Option.some.inj hlast).symm

/-- The outcome of a class, from what comes of emitting its builder. -/
def outcomeOf (d : Declaration) (b : Blueprint) : Except RunFault (Path × EmitStatus) → Outcome
  | .error fault => refusal d fault
  | .ok (path, status) =>
    let problem := if status = .stale then "out of date" else "missing"
    ⟨d.qualifiedName, .emitted status, some path,
      if status.isUpToDate then none
      else some (.make .error (path.render ++ " is " ++ problem ++ " (run generator)") (some d) none none),
      some b.moduleName⟩

/-- A fault that is kept to the class is its outcome. -/
theorem eq_refusal_of_failedOutcome {fault : RunFault}
    (h : exec (failedOutcome d fault) run = (.ok o, run')) : o = refusal d fault := by
  rw [failedOutcome, exec_ite] at h
  split at h
  · cases h
    rfl
  · cases h

/-- So it is with what was emitted. -/
theorem eq_outcomeOf_of_emittedOutcome {status : EmitStatus}
    (h : exec (emittedOutcome d b p status) run = (.ok o, run')) : o = outcomeOf d b (.ok (p, status)) := by
  rw [emittedOutcome, exec_ite] at h
  rw [outcomeOf]
  split at h
  · next hup =>
    cases h
    simp only [if_pos hup]
  · next hdrift =>
    cases h
    simp only [if_neg hdrift]

/-- The outcome of a class whose file is claimed is made from what comes of emitting its builder. -/
theorem eq_outcomeOf_of_concluded {progress progress' : Progress}
    (h : exec (concluded e d b progress) run = (.ok (o, progress'), run')) :
    o = outcomeOf d b (emission e.root e.check b run.store) := by
  rw [concluded, exec_bind_of_ok (Running.exec_attempt _ run), exec_emit_fst] at h
  generalize emission e.root e.check b run.store = result at h ⊢
  rcases result with fault | ⟨path, status⟩
  · obtain ⟨o', run₁, hfailed, hlast⟩ := exec_bind_ok_iff.mp h
    cases hlast
    exact eq_refusal_of_failedOutcome hfailed
  · obtain ⟨o', run₁, hemitted, hlast⟩ := exec_bind_ok_iff.mp h
    cases hlast
    exact eq_outcomeOf_of_emittedOutcome hemitted

/-- **The outcome of a class whose file is free** is made from what comes of emitting its builder. -/
theorem outcome_of_processOne {progress progress' : Progress} (hrefs : Resolving.Sound s progress.refs)
    (hb : written? s d = some b) (hfree : b.outputPath e.root ∉ progress.paths)
    (h : exec (processOne s e d progress) run = (.ok (o, progress'), run')) :
    o = outcomeOf d b (emission e.root e.check b run.store) := by
  obtain ⟨hkind, hb⟩ := written?_eq_some_iff.mp hb
  obtain ⟨schema, hschema, hbuilt⟩ := exists_of_builderOf? hb
  obtain ⟨refs, run₁, hdescribe, -, hfirst⟩ := exec_describe hrefs d run
  rw [processOne, exec_ite, if_pos hkind, processClass, exec_bind_of_ok hdescribe, hschema] at h
  simp only at h
  rw [exec_bind_of_ok (Running.exec_attempt _ run₁)] at h
  have hclaiming := (claiming_writeBuilder e d schema progress.claimed run₁).after hfirst
  generalize (exec (writeBuilder e d schema progress.claimed) run₁).1 = result at hclaiming h
  generalize (exec (writeBuilder e d schema progress.claimed) run₁).2 = run₂ at hclaiming h
  cases hclaiming with
  | refused hrefused => cases hbuilt.symm.trans hrefused
  | blocked =>
    obtain ⟨o', run₃, hfailed, -⟩ := exec_bind_ok_iff.mp h
    cases (failed_of_failedOutcome hfailed).1
  | unseen _ hroot =>
    obtain ⟨o', run₃, hfailed, hlast⟩ := exec_bind_ok_iff.mp h
    cases hlast
    rw [emission, hroot]
    exact eq_refusal_of_failedOutcome hfailed
  | taken hb' _ htaken =>
    obtain rfl := Except.ok.inj (hbuilt.symm.trans hb')
    exact absurd htaken hfree
  | @free b' _ hb' _ _ hcontinues =>
    obtain rfl := Except.ok.inj (hbuilt.symm.trans hb')
    have hconcluded : exec (concluded e d b
        ⟨refs, progress.claimed ++ [(b.outputPath e.root, d.qualifiedName)]⟩) run₂ =
          (.ok (o, progress'), run') := h
    rw [eq_outcomeOf_of_concluded hconcluded, hcontinues.store_eq]

/-! ### Rounds in parts -/

/-- The work on some declarations, one after the other, with what the round knows then. -/
inductive Passes (s : Surroundings) (e : Emitter) :
    List Declaration → Progress → Run → List Outcome → Progress → Run → Prop
  /-- There are no more. -/
  | nil {progress : Progress} {run : Run} : Passes s e [] progress run [] progress run
  /-- One declaration comes before others. -/
  | cons {d : Declaration} {rest : List Declaration} {o : Outcome} {outcomes : List Outcome}
    {progress progress' progress'' : Progress} {run run' run'' : Run}
    (hone : exec (processOne s e d progress) run = (.ok (o, progress'), run'))
    (hrest : Passes s e rest progress' run' outcomes progress'' run'') :
    Passes s e (d :: rest) progress run (o :: outcomes) progress'' run''

/-- There are outcomes iff all declarations can be passed. -/
theorem passes_iff {ds : List Declaration} {progress : Progress} {outcomes : List Outcome} :
    exec (processAll s e progress ds) run = (.ok outcomes, run') ↔
      ∃ progress', Passes s e ds progress run outcomes progress' run' := by
  constructor
  · intro h
    induction ds generalizing progress run outcomes with
    | nil =>
      cases h
      exact ⟨progress, .nil⟩
    | cons d rest ih =>
      obtain ⟨o, progress', run₁, others, hone, hall, rfl⟩ := exec_processAll_cons_iff.mp h
      obtain ⟨progress'', hrest⟩ := ih hall
      exact ⟨progress'', .cons hone hrest⟩
  · rintro ⟨progress', h⟩
    induction h with
    | nil => rfl
    | cons hone _ ih => exact exec_processAll_cons_iff.mpr ⟨_, _, _, _, hone, ih, rfl⟩

namespace Passes

variable {front back ds : List Declaration} {outcomes : List Outcome} {progress progress' progress'' : Progress}

/-- Passing declarations is passing the first ones and then the others. -/
theorem append_iff {run'' : Run} :
    Passes s e (front ++ back) progress run outcomes progress'' run'' ↔
      ∃ before progress' run' later, Passes s e front progress run before progress' run' ∧
        Passes s e back progress' run' later progress'' run'' ∧ outcomes = before ++ later := by
  constructor
  · intro h
    induction front generalizing progress run outcomes with
    | nil => exact ⟨[], progress, run, outcomes, .nil, h, rfl⟩
    | cons d rest ih =>
      cases h with
      | cons hone hrest =>
        obtain ⟨before, progress', run', later, hfront, hback, rfl⟩ := ih hrest
        exact ⟨_ :: before, progress', run', later, .cons hone hfront, hback, rfl⟩
  · rintro ⟨before, progress', run', later, hfront, hback, rfl⟩
    induction hfront with
    | nil => exact hback
    | cons hone _ ih => exact .cons hone (ih hback)

/-- There is an outcome for every declaration. -/
theorem length_eq (h : Passes s e ds progress run outcomes progress' run') : outcomes.length = ds.length := by
  induction h with
  | nil => rfl
  | cons _ _ ih => rw [List.length_cons, List.length_cons, ih]

/-- References stay sound. -/
theorem sound_refs (h : Passes s e ds progress run outcomes progress' run')
    (hrefs : Resolving.Sound s progress.refs) : Resolving.Sound s progress'.refs := by
  induction h with
  | nil => exact hrefs
  | cons hone _ ih => exact ih (effect_of_processOne hrefs hone).1

/-- The files claimed are those of the builders of the declarations. -/
theorem mem_paths (h : Passes s e ds progress run outcomes progress' run')
    (hrefs : Resolving.Sound s progress.refs) (hp : p ∈ progress'.paths) :
    p ∈ progress.paths ∨ p ∈ filesOf s e ds := by
  induction h with
  | nil => exact .inl hp
  | cons hone _ ih =>
    rcases ih (effect_of_processOne hrefs hone).1 hp with hmem | hlater
    · rcases (judged_processOne hrefs hone).claims_cases hmem with hmem | ⟨b, hb, rfl⟩
      · exact .inl hmem
      · exact .inr (mem_filesOf.mpr ⟨_, List.mem_cons_self, b, hb, rfl⟩)
    · obtain ⟨c, hc, hfile⟩ := mem_filesOf.mp hlater
      exact .inr (mem_filesOf.mpr ⟨c, List.mem_cons_of_mem _ hc, hfile⟩)

/-- A file that is that of no builder is not claimed. -/
theorem free (h : Passes s e ds ⟨[], []⟩ run outcomes progress' run') (hp : p ∉ filesOf s e ds) :
    p ∉ progress'.paths := by
  intro hmem
  rcases h.mem_paths (Resolving.sound_nil s) hmem with hnone | hfile
  · exact List.not_mem_nil hnone
  · exact hp hfile

/-- A round that has changed claimed files only goes on so. -/
theorem since (h : Passes s e ds progress run outcomes progress' run')
    (hnames : ∀ d ∈ ds, '/' ∉ d.qualifiedName.toList) (hrefs : Resolving.Sound s progress.refs)
    (hsince : Since e.root store progress.paths run.store) : Since e.root store progress'.paths run'.store := by
  induction h with
  | nil => exact hsince
  | cons hone _ ih =>
    obtain ⟨hfirst, hothers⟩ := List.forall_mem_cons.mp hnames
    obtain ⟨hrefs', heffect⟩ := effect_of_processOne hrefs hone
    exact ih hothers hrefs' (hsince.step hfirst heffect)

/-- A store stays sound. -/
theorem sound (h : Passes s e ds progress run outcomes progress' run')
    (hrefs : Resolving.Sound s progress.refs) (hsound : run.store.Sound) : run'.store.Sound := by
  induction h with
  | nil => exact hsound
  | cons hone _ ih =>
    exact ih (effect_of_processOne hrefs hone).1 ((judged_processOne hrefs hone).sound hsound)

end Passes

/-! ### Files that are taken -/

/-- No declaration can open a file any more: it is claimed, or the root cannot be looked at. -/
def Taken (root p : Path) (claimed : List Path) (store : Store) : Prop :=
  p ∈ claimed ∨ ∃ fault, store.look root = .error fault

namespace Taken

/-- What is taken cannot be opened. -/
theorem opened_eq_none (h : Taken root p claimed store) : opened root claimed store p = none := by
  refine Option.eq_none_iff_forall_ne_some.mpr fun existing hopened => ?_
  obtain ⟨⟨node, hnode⟩, hfree, -⟩ := opened_eq_some_iff.mp hopened
  rcases h with hmem | ⟨fault, hfault⟩
  · exact hfree hmem
  · cases hfault.symm.trans hnode

/-- What is taken stays taken. -/
theorem step (h : Taken e.root p claimed before) (heffect : Effect s e d claimed before o claimed' after) :
    Taken e.root p claimed' after := by
  rcases h with hmem | ⟨fault, hfault⟩
  · exact .inl (heffect.subset hmem)
  · exact .inr ⟨fault, heffect.evolves.look_eq_error hfault⟩

/-- A class with a builder takes its file. -/
theorem of_judged (h : Judged s e d claimed before o claimed' after) (hb : written? s d = some b)
    (heffect : Effect s e d claimed before o claimed' after) :
    Taken e.root (b.outputPath e.root) claimed' after := by
  rcases hlook : before.look e.root with fault | node
  · exact .inr ⟨fault, heffect.evolves.look_eq_error hlook⟩
  · exact .inl (h.mem_claims hb ⟨node, hlook⟩)

/-- A class with a builder in a file that is taken has failed, and nothing was written. -/
theorem failed_of_judged (h : Taken e.root (b.outputPath e.root) claimed before)
    (hb : written? s d = some b) (hjudged : Judged s e d claimed before o claimed' after) :
    o.status = .failed ∧ after = before := by
  obtain ⟨hkind, hb⟩ := written?_eq_some_iff.mp hb
  cases hjudged with
  | invalid hother => exact absurd hkind hother
  | unbuilt _ hnone => cases hb.symm.trans hnone
  | built _ hb' hhandled =>
    obtain rfl := Option.some.inj (hb.symm.trans hb')
    exact ⟨hhandled.status_of_unopened h.opened_eq_none, hhandled.store_of_unopened h.opened_eq_none⟩

end Taken

/-- **A file that is taken stays as it is**, whatever comes later. -/
theorem Taken.bytes_iff {ds : List Declaration} {progress : Progress}
    (htaken : Taken e.root p progress.paths run.store) (hp : Path.Below e.root p)
    (hup : ".." ∉ e.root.parts) (hrooted : run.store.Rooted)
    (hnames : ∀ d ∈ ds, '/' ∉ d.qualifiedName.toList) (hrefs : Resolving.Sound s progress.refs)
    {outcomes : List Outcome} (h : exec (processAll s e progress ds) run = (.ok outcomes, run'))
    (bytes : List UInt8) : run'.store.bytes p = .ok bytes ↔ run.store.bytes p = .ok bytes := by
  have hcompleted := completed_processAll hrefs h
  have hbelow : ∀ d ∈ ds, ∀ b, builderOf? s d = some b → Path.Below e.root (b.outputPath e.root) :=
    fun d hd b hb => below_of_builderOf? (hnames d hd) hb e.root
  rcases htaken with hmem | ⟨fault, hfault⟩
  · refine ⟨bytes_of_evolves hrooted hcompleted.evolves (Looked.not_mem (.inr hp) hup) fun place hplace =>
      hcompleted.not_generatedAt hbelow hp hmem hplace, hcompleted.bytes_eq hbelow hp hmem⟩
  · -- Nothing can be read below a root that cannot be looked at.
    have hnone : ∀ {store : Store}, store.look e.root = .error fault → store.bytes p ≠ .ok bytes := by
      intro store hlook hbytes
      obtain ⟨node, hnode⟩ := (Evolves.refl (fun _ => True) store).exists_look_of_below hp hbytes
      cases hlook.symm.trans hnode
    exact iff_of_false (hnone (hcompleted.evolves.look_eq_error hfault)) (hnone hfault)

/-- Later classes with a builder in a file that is taken have failed, and wrote nothing. -/
theorem Taken.failed_of_passes {ds : List Declaration} {outcomes : List Outcome}
    {progress progress' : Progress} (h : Passes s e ds progress run outcomes progress' run')
    (htaken : Taken e.root (b.outputPath e.root) progress.paths run.store)
    (hrefs : Resolving.Sound s progress.refs) {i : Nat} {c : Declaration} (hc : ds[i]? = some c)
    (hb : (written? s c).map (·.outputPath e.root) = some (b.outputPath e.root)) :
    ∃ o outs outs' progressA progressB runA runB, outcomes[i]? = some o ∧ o.status = .failed ∧
      Passes s e (ds.take i) progress run outs progressA runA ∧
      Passes s e (ds.take (i + 1)) progress run outs' progressB runB ∧ runB.store = runA.store := by
  induction h generalizing i with
  | nil => cases hc
  | @cons d rest o outcomes progress next progress' run run₁ run' hone hrest ih =>
    have hjudged := judged_processOne hrefs hone
    obtain ⟨hrefs', heffect⟩ := effect_of_processOne hrefs hone
    cases i with
    | zero =>
      obtain rfl := Option.some.inj hc
      obtain ⟨b', hb', hpath⟩ := Option.map_eq_some_iff.mp hb
      obtain ⟨hstatus, hstore⟩ := Taken.failed_of_judged (hpath ▸ htaken) hb' hjudged
      exact ⟨o, [], [o], progress, next, run, run₁, rfl, hstatus, .nil, .cons hone .nil, hstore⟩
    | succ i =>
      obtain ⟨o', outs, outs', progressA, progressB, runA, runB, ho', hstatus, hfirst, hsecond, hstore⟩ :=
        ih (htaken.step heffect) hrefs' hc
      exact ⟨o', o :: outs, o :: outs', progressA, progressB, runA, runB, ho', hstatus, .cons hone hfirst,
        .cons hone hsecond, hstore⟩

end FluentBuilder.Processing
