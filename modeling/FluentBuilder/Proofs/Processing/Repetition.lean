import FluentBuilder.Proofs.Processing.Halting
import FluentBuilder.Proofs.Processing.Verdict
import FluentBuilder.Proofs.Store.Sound

/-!
# Rounds that are repeated

Where a round has left something as it should be, the file of its builder holds the text of the builder
in the end (`stands_processAll`): a file that was written is read back as it was written, unless there
are carriage returns in it, and no file is written twice. A second round over the same declarations finds
it so, and leaves it alone iff the same text is to be written again (`repeats_processAll`). It may be over
another tree: the file of a builder is named for the declaration alone (`outputPath_of_builderOf?`), and
all that is asked of the tree is that no declaration has a builder in it that had none, or fails to be
resolved (`Compatible`).

**The route.** The second round is followed beside the first one. It claims no file that the first one
had not claimed at the same declaration (`Repeats.claims_subset`), so that the file of a builder that
stood in the end is free when its turn comes, and is found as it stood (`Since.bytes_iff`). For the same
reason nothing ends the second round that would not have ended the first one.
-/

namespace FluentBuilder.Processing

open Stateful Source Store

variable {s s' : Surroundings} {e e' : Emitter} {d : Declaration} {b : Blueprint} {o o' : Outcome}
variable {p : Path} {claimed claimed' : List Path} {store before after : Store} {run run' : Run}

/-! ### What one step leaves -/

/-- The work on a declaration keeps a store sound. -/
theorem Judged.sound (h : Judged s e d claimed before o claimed' after) (hsound : before.Sound) :
    after.Sound := by
  have hwriting : ∀ {b : Blueprint} {result : Except StoreFault Unit},
      exec (Filing.writeWhole (b.outputPath e.root) (Utf8.encode b.render)) before = (result, after) →
        after.Sound := by
    intro b result hwrite
    have hwritten := Filing.sound_writeWhole hsound (b.outputPath e.root) (Utf8.encode b.render)
    rw [hwrite] at hwritten
    exact hwritten
  cases h with
  | invalid => exact hsound
  | unbuilt => exact hsound
  | built _ _ hhandled =>
    cases hhandled with
    | unopened => exact hsound
    | upToDate => exact hsound
    | drifted => exact hsound
    | written _ _ _ hwrite => exact hwriting hwrite
    | unwritten _ _ _ hwrite => exact hwriting hwrite

/-- What is unreadable after the work on a declaration was so before. -/
theorem Effect.undecodable (h : Effect s e d claimed before o claimed' after) (hsound : before.Sound)
    (hup : ".." ∉ p.parts) (hafter : Running.Undecodable after p) : Running.Undecodable before p := by
  have hkept : ∀ {changed : Place → Prop}, Evolves changed before after →
      (∀ place, after.placeOf p = .ok place → ¬ changed place) → Running.Undecodable before p := by
    intro changed hevolves hchanged
    obtain ⟨bytes, hbytes, hfault⟩ := hafter
    exact ⟨bytes, bytes_of_evolves hsound.rooted hevolves hup hchanged hbytes, hfault⟩
  cases h with
  | untouched => exact hafter
  | written _ _ _ _ _ _ hwritten =>
    obtain ⟨-, place, -, hfile, hevolves⟩ := hwritten
    refine hkept hevolves fun other hother heq => ?_
    -- What was written is a text.
    subst heq
    obtain ⟨bytes, hbytes, -⟩ := id hafter
    obtain ⟨hnull, found, hfound, -⟩ := bytes_eq_ok_iff.mp hbytes
    obtain rfl := Except.ok.inj (hfound.symm.trans hother)
    exact Running.not_undecodable_of_bytes (bytes_eq_ok_iff.mpr ⟨hnull, found, hfound, hfile⟩) hafter
  | unwritten _ _ _ _ _ hevolves => exact hkept hevolves fun _ _ => not_false

/-- What is as it should be has claimed the file of its builder, which was free, and which holds the text
of the builder. -/
theorem Judged.textAt_eq (h : Judged s e d claimed before o claimed' after)
    (htext : ∀ b, builderOf? s d = some b → '\r' ∉ b.render.toList) (hok : o.isOk = true) :
    s.tree.kindOf d = .plainClass ∧ ∃ b, builderOf? s d = some b ∧ Names e b o ∧
      b.outputPath e.root ∉ claimed ∧ b.outputPath e.root ∈ claimed' ∧
      textAt after (b.outputPath e.root) = .ok (some b.render) := by
  cases h with
  | invalid _ hstatus =>
    rw [Outcome.isOk, hstatus] at hok
    cases hok
  | unbuilt _ _ hstatus =>
    rw [Outcome.isOk, hstatus] at hok
    cases hok
  | @built b _ hkind hb hhandled =>
    refine ⟨hkind, b, hb, ?_⟩
    have hclaims : ∀ {existing : Option String},
        opened e.root claimed before (b.outputPath e.root) = some existing →
          b.outputPath e.root ∉ claimed ∧
            b.outputPath e.root ∈ claimsWith e.root claimed before (b.outputPath e.root) := by
      intro existing hopened
      obtain ⟨⟨node, hnode⟩, hfree, -⟩ := opened_eq_some_iff.mp hopened
      rw [claimsWith_of_not_mem hnode hfree]
      exact ⟨hfree, List.mem_append_right _ List.mem_cons_self⟩
    cases hhandled with
    | unopened _ hstatus =>
      rw [Outcome.isOk, hstatus] at hok
      cases hok
    | upToDate hopened _ hnames =>
      obtain ⟨hfree, hclaimed⟩ := hclaims hopened
      exact ⟨hnames, hfree, hclaimed, (opened_eq_some_iff.mp hopened).2.2⟩
    | @drifted existing _ _ _ hstatus _ =>
      rw [Outcome.isOk, hstatus] at hok
      cases existing <;> cases hok
    | written _ hopened _ hwrite _ hnames =>
      obtain ⟨hfree, hclaimed⟩ := hclaims hopened
      refine ⟨hnames, hfree, hclaimed, textAt_eq_some_iff.mpr ⟨_, ?_, Running.textOf_encode (htext b hb)⟩⟩
      rcases Filing.writeWhole_spec (b.outputPath e.root) (Utf8.encode b.render) before with
        ⟨fault, _, hfailed, -⟩ | ⟨place, _, hwritten, hnull, hplace, hfile, -⟩
      · cases hwrite.symm.trans hfailed
      · obtain ⟨-, rfl⟩ := Prod.mk.inj (hwrite.symm.trans hwritten)
        exact bytes_eq_ok_iff.mpr ⟨hnull, place, hplace, hfile⟩
    | unwritten _ _ _ _ _ hstatus =>
      rw [Outcome.isOk, hstatus] at hok
      cases hok

/-! ### What the first round leaves -/

/-- The file of a builder holds its text, where the outcome says that it is as it should be. -/
def Stands (s : Surroundings) (e : Emitter) (store : Store) (d : Declaration) (o : Outcome) : Prop :=
  o.isOk = true → ∃ b, builderOf? s d = some b ∧ Names e b o ∧
    textAt store (b.outputPath e.root) = .ok (some b.render)

/-- **What is as it should be stands in the end**: the file of its builder holds the text of the
builder. -/
theorem stands_processAll {ds : List Declaration} (hnames : ∀ d ∈ ds, '/' ∉ d.qualifiedName.toList)
    (htexts : ∀ d ∈ ds, ∀ b, builderOf? s d = some b → '\r' ∉ b.render.toList) {progress : Progress}
    (hrefs : Resolving.Sound s progress.refs) {outcomes : List Outcome}
    (h : exec (processAll s e progress ds) run = (.ok outcomes, run')) :
    List.Forall₂ (Stands s e run'.store) ds outcomes := by
  induction ds generalizing progress run outcomes with
  | nil =>
    cases h
    exact .nil
  | cons d rest ih =>
    obtain ⟨hslash, hothers⟩ := List.forall_mem_cons.mp hnames
    obtain ⟨htext, hrest⟩ := List.forall_mem_cons.mp htexts
    obtain ⟨o, progress', run₁, others, hone, hall, rfl⟩ := exec_processAll_cons_iff.mp h
    have hrefs' := (effect_of_processOne hrefs hone).1
    refine .cons (fun hok => ?_) (ih hothers hrest hrefs' hall)
    obtain ⟨-, b, hb, hnamed, -, hclaimed, hread⟩ :=
      (judged_processOne hrefs hone).textAt_eq htext hok
    obtain ⟨bytes, hbytes, hdecoded⟩ := textAt_eq_some_iff.mp hread
    -- The file is claimed, so that no later declaration writes it.
    have hkept := (completed_processAll hrefs' hall).bytes_eq
      (fun d' hd' b' hb' => below_of_builderOf? (hothers d' hd') hb' e.root)
      (below_of_builderOf? hslash hb e.root) hclaimed hbytes
    exact ⟨b, hb, hnamed, textAt_eq_some_iff.mpr ⟨bytes, hkept, hdecoded⟩⟩

/-- Nothing becomes unreadable in a round, and the store stays sound. -/
theorem undecodable_of_processAll {ds : List Declaration} {progress : Progress}
    (hrefs : Resolving.Sound s progress.refs) (hsound : run.store.Sound) {outcomes : List Outcome}
    (h : exec (processAll s e progress ds) run = (.ok outcomes, run')) :
    run'.store.Sound ∧ ∀ p : Path, ".." ∉ p.parts → Running.Undecodable run'.store p →
      Running.Undecodable run.store p := by
  induction ds generalizing progress run outcomes with
  | nil =>
    cases h
    exact ⟨hsound, fun _ _ hp => hp⟩
  | cons d rest ih =>
    obtain ⟨o, progress', run₁, others, hone, hall, rfl⟩ := exec_processAll_cons_iff.mp h
    obtain ⟨hrefs', heffect⟩ := effect_of_processOne hrefs hone
    obtain ⟨hlast, hlater⟩ := ih hrefs' ((judged_processOne hrefs hone).sound hsound) hall
    exact ⟨hlast, fun p hup hp => heffect.undecodable hsound hup (hlater p hup hp)⟩

/-- A round leaves the files that it claimed, below the root, and no others changed. -/
theorem since_processAll {ds : List Declaration} (hnames : ∀ d ∈ ds, '/' ∉ d.qualifiedName.toList)
    {progress : Progress} (hrefs : Resolving.Sound s progress.refs)
    (hsince : Since e.root before progress.paths run.store) {outcomes : List Outcome}
    (h : exec (processAll s e progress ds) run = (.ok outcomes, run')) :
    ∃ claimed, Since e.root before claimed run'.store := by
  induction ds generalizing progress run outcomes with
  | nil =>
    cases h
    exact ⟨_, hsince⟩
  | cons d rest ih =>
    obtain ⟨hslash, hothers⟩ := List.forall_mem_cons.mp hnames
    obtain ⟨o, progress', run₁, others, hone, hall, rfl⟩ := exec_processAll_cons_iff.mp h
    obtain ⟨hrefs', heffect⟩ := effect_of_processOne hrefs hone
    exact ih hothers hrefs' (hsince.step hslash heffect) hall

/-! ### The second round beside the first one -/

/-- The builder that is written for a declaration: only plain classes have one. -/
def written? (s : Surroundings) (d : Declaration) : Option Blueprint :=
  if s.tree.kindOf d = .plainClass then builderOf? s d else none

/-- A plain class with a builder has one that is written. -/
theorem written?_eq_some_iff :
    written? s d = some b ↔ s.tree.kindOf d = .plainClass ∧ builderOf? s d = some b := by
  rw [written?, Option.ite_none_right_eq_some]

/-- A declaration in other surroundings: it has a builder at most if it had one, and if it is a plain
class, then its annotations can be resolved. -/
structure Compatible (s s' : Surroundings) (d : Declaration) : Prop where
  /-- Its annotations can be resolved. -/
  resolved : s'.tree.kindOf d = .plainClass → ∀ fault, schemaOf s' d ≠ .error (.resolve fault)
  /-- It had a builder. -/
  built : ∀ b', written? s' d = some b' → ∃ b, written? s d = some b

/-- Of a class without bases and annotations the surroundings do not matter. -/
theorem written?_of_isBare (h : d.isBare = true) (s s' : Surroundings) :
    written? s' d = written? s d := by
  rw [written?, written?, kindOf_of_isBare h, kindOf_of_isBare h, builderOf?, builderOf?,
    schemaOf_of_isBare h, schemaOf_of_isBare h]

/-- Such a class can be in any surroundings. -/
theorem compatible_of_isBare (h : d.isBare = true) (s s' : Surroundings) : Compatible s s' d where
  resolved := by
    intro _ fault hschema
    rw [schemaOf_of_isBare h] at hschema
    cases hschema
  built := fun b' hb' => ⟨b', written?_of_isBare h s s' ▸ hb'⟩

/-- The file of a class with a builder is claimed, if the root can be looked at. -/
theorem Judged.mem_claims (h : Judged s e d claimed before o claimed' after)
    (hb : written? s d = some b) (hroot : ∃ node, before.look e.root = .ok node) :
    b.outputPath e.root ∈ claimed' := by
  obtain ⟨hkind, hb⟩ := written?_eq_some_iff.mp hb
  obtain ⟨node, hnode⟩ := hroot
  cases h with
  | invalid hother => exact absurd hkind hother
  | unbuilt _ hnone => cases hb.symm.trans hnone
  | built _ hb' =>
    obtain rfl := Option.some.inj (hb.symm.trans hb')
    rw [claimsWith, hnode]
    simp only
    split
    · next hmem => exact hmem
    · exact List.mem_append_right _ List.mem_cons_self

/-- Only the file of a class with a builder is claimed. -/
theorem Judged.claims_cases (h : Judged s e d claimed before o claimed' after) (hp : p ∈ claimed') :
    p ∈ claimed ∨ ∃ b, written? s d = some b ∧ p = b.outputPath e.root := by
  cases h with
  | invalid => exact .inl hp
  | unbuilt => exact .inl hp
  | @built b _ hkind hb =>
    rw [claimsWith] at hp
    split at hp
    · exact .inl hp
    · split at hp
      · exact .inl hp
      · rcases List.mem_append.mp hp with hp | hp
        · exact .inl hp
        · exact .inr ⟨b, written?_eq_some_iff.mpr ⟨hkind, hb⟩, List.mem_singleton.mp hp⟩

/-- How far a second round has come, beside the first one: it began with the files that the first one
left in the end, and has come to the same declaration. -/
structure Repeats (root : Path) (before final : Store) (claimed : List Path) (mid : Store)
    (claimed' : List Path) (now : Store) : Prop where
  /-- What the first round has done so far. -/
  first : Since root before claimed mid
  /-- What it will do. -/
  onward : Evolves (fun _ => True) mid final
  /-- What the second one has done so far. -/
  second : Since root final claimed' now
  /-- The second round has claimed no more than the first one. -/
  claims_subset : (∃ node, mid.look root = .ok node) → claimed' ⊆ claimed

namespace Repeats

variable {root : Path} {final mid now next : Store}

/-- Where the root can be looked at now, it could be looked at in the first round. -/
theorem exists_look (h : Repeats root before final claimed mid claimed' now)
    (hnow : ∃ node, now.look root = .ok node) : ∃ node, mid.look root = .ok node :=
  h.onward.exists_look (h.second.evolves.exists_look hnow)

/-- Nothing ends the second round at a class that did not end the first one. -/
theorem not_halts (h : Repeats e.root before final claimed mid claimed' now) (hroot : e'.root = e.root)
    {last : List Path} (hlast : Since e.root before last final)
    (hreadable : ∀ p : Path, ".." ∉ p.parts → Running.Undecodable final p →
      Running.Undecodable before p)
    (hcompatible : Compatible s s' d) (hslash : '/' ∉ d.qualifiedName.toList)
    (hzero : '\x00' ∉ d.qualifiedName.toList) (hnull : hasNull e.root = false)
    (hspared : s.tree.kindOf d = .plainClass → Spared s e d claimed mid)
    (hkind : s'.tree.kindOf d = .plainClass) (fault : RunFault) :
    ¬ Halts s' e' d claimed' now fault := by
  -- The class had a builder in the same file, and did not end the first round.
  have hbuilder : ∀ {b' : Blueprint}, builderOf? s' d = some b' → ∃ b, builderOf? s d = some b ∧
      b'.outputPath e'.root = b.outputPath e.root ∧ Spared s e d claimed mid := by
    intro b' hb'
    obtain ⟨b, hb⟩ := hcompatible.built b' (written?_eq_some_iff.mpr ⟨hkind, hb'⟩)
    obtain ⟨hbefore, hb⟩ := written?_eq_some_iff.mp hb
    exact ⟨b, hb, by rw [hroot, outputPath_of_builderOf? hb hb'], hspared hbefore⟩
  intro hhalts
  cases hhalts with
  | unresolved hschema => exact hcompatible.resolved hkind _ hschema
  | blocked hb' hblocked =>
    obtain ⟨b, hb, -, hspared⟩ := hbuilder hb'
    rw [hroot, h.second.blocked_iff, hlast.blocked_iff, ← h.first.blocked_iff] at hblocked
    exact (hspared.builder b hb).1 hblocked
  | undecodable hb' hfit hfree hbytes =>
    obtain ⟨b, hb, hpath, hspared⟩ := hbuilder hb'
    rw [hpath] at hfree hbytes
    rw [hroot] at hfit
    have hbelow := below_of_builderOf? hslash hb e.root
    have hbefore : Running.Undecodable before (b.outputPath e.root) :=
      hreadable _ (Looked.not_mem (.inr hbelow) h.first.not_mem)
        ((h.second.undecodable_iff hbelow hfree).mp hbytes)
    by_cases hclaimed : b.outputPath e.root ∈ claimed
    · exact h.first.readable _ hclaimed hbefore
    · rcases (hspared.builder b hb).2 with hmem | hnot | ⟨fault, hlook⟩
      · exact hclaimed hmem
      · exact hnot ((h.first.undecodable_iff hbelow hclaimed).mpr hbefore)
      · obtain ⟨node, hnode⟩ := h.exists_look hfit.exists_look
        cases hlook.symm.trans hnode
  | nullCharacter hb' hpath =>
    obtain ⟨b, hb, hsame, -⟩ := hbuilder hb'
    rw [hsame] at hpath
    cases (hasNull_of_builderOf? hslash hzero hb hnull).symm.trans hpath

/-- **What stands in the end is found by the second round**, and left alone if the text to be written is
the same. -/
theorem unchanged_iff (h : Repeats e.root before final claimed mid claimed' now) (hroot : e'.root = e.root)
    (hslash : '/' ∉ d.qualifiedName.toList) {claims claims' : List Path} {further : Store}
    (hfirst : Judged s e d claimed mid o claims further) (hstands : Stands s e final d o)
    (htext : ∀ b, builderOf? s d = some b → '\r' ∉ b.render.toList)
    (hsecond : Judged s' e' d claimed' now o' claims' next) (hok : o.isOk = true) :
    (o'.status = .emitted .unchanged ↔
      (written? s' d).map Blueprint.render = (written? s d).map Blueprint.render) ∧
      (o'.status = .emitted .unchanged → o'.path = o.path ∧ o'.module = o.module) := by
  obtain ⟨b, hb, hnames, hread⟩ := hstands hok
  obtain ⟨hkind, b', hb', -, hfree, -, -⟩ := hfirst.textAt_eq htext hok
  obtain rfl := Option.some.inj (hb.symm.trans hb')
  obtain ⟨bytes, hbytes, hdecoded⟩ := textAt_eq_some_iff.mp hread
  have hbelow := below_of_builderOf? hslash hb e.root
  -- The root can be looked at, and so it could be all the time.
  have hlook := h.second.evolves.exists_look_of_below hbelow hbytes
  have hfree' : b.outputPath e.root ∉ claimed' := fun hmem =>
    hfree (h.claims_subset (h.exists_look hlook) hmem)
  have hnow := (h.second.bytes_iff (.inr hbelow) hfree' bytes).mpr hbytes
  have hopened : opened e.root claimed' now (b.outputPath e.root) = some (some b.render) :=
    opened_eq_some_iff.mpr ⟨hlook, hfree', textAt_eq_some_iff.mpr ⟨bytes, hnow, hdecoded⟩⟩
  rw [written?_eq_some_iff.mpr ⟨hkind, hb⟩, Option.map_some]
  cases hsecond with
  | invalid hother hstatus =>
    rw [hstatus, written?, if_neg hother]
    simp
  | unbuilt _ hnone hstatus =>
    rw [hstatus, written?, hnone, ite_self]
    simp
  | @built b' _ hkind' hb' hhandled =>
    have hpath : b'.outputPath e'.root = b.outputPath e'.root := outputPath_of_builderOf? hb hb' e'.root
    rw [← hroot, ← hpath] at hopened
    rw [written?_eq_some_iff.mpr ⟨hkind', hb'⟩, Option.map_some, hhandled.unchanged_iff, hopened,
      Option.some.injEq]
    refine ⟨eq_comm, fun hsame => ?_⟩
    rw [hsame] at hopened
    obtain ⟨-, hnames', -⟩ := hhandled.unchanged_of_opened hopened
    refine ⟨?_, ?_⟩
    · rw [hnames'.path_eq, hnames.path_eq, hpath, hroot]
    · rw [hnames'.module_eq, hnames.module_eq, moduleName_of_builderOf? hb hb']

/-- One more declaration leaves the rounds side by side. -/
theorem step (h : Repeats e.root before final claimed mid claimed' now) (hroot : e'.root = e.root)
    (hcompatible : Compatible s s' d) (hslash : '/' ∉ d.qualifiedName.toList)
    {claims claims' : List Path} {further : Store}
    (hfirst : Judged s e d claimed mid o claims further)
    (heffect : Effect s e d claimed mid o claims further)
    (honward : Evolves (fun _ => True) further final)
    (hsecond : Judged s' e' d claimed' now o' claims' next)
    (heffect' : Effect s' e' d claimed' now o' claims' next) :
    Repeats e.root before final claims further claims' next where
  first := h.first.step hslash heffect
  onward := honward
  second := by
    have hstep := h.second
    rw [← hroot] at hstep ⊢
    exact hstep.step hslash heffect'
  claims_subset := by
    intro hlook p hp
    have hmid := heffect.evolves.exists_look hlook
    rcases hsecond.claims_cases hp with hp | ⟨b', hb', rfl⟩
    · exact heffect.subset (h.claims_subset hmid hp)
    · obtain ⟨b, hb⟩ := hcompatible.built b' hb'
      rw [hroot, outputPath_of_builderOf? (written?_eq_some_iff.mp hb).2 (written?_eq_some_iff.mp hb').2]
      exact hfirst.mem_claims hb hmid

end Repeats

/-- What a second outcome about a declaration is, beside the first one. -/
structure Again (s s' : Surroundings) (d : Declaration) (o o' : Outcome) : Prop where
  /-- The first one is about the declaration. -/
  element_eq : o.element = d.qualifiedName
  /-- So is the second one. -/
  element_eq' : o'.element = d.qualifiedName
  /-- What was as it should be is unchanged iff the text to be written is the same. -/
  unchanged_iff : o.isOk = true → (o'.status = .emitted .unchanged ↔
    (written? s' d).map Blueprint.render = (written? s d).map Blueprint.render)
  /-- Then it is at the same path and under the same name. -/
  names_eq : o.isOk = true → o'.status = .emitted .unchanged → o'.path = o.path ∧ o'.module = o.module

/-- The outcomes of a second round, one for each declaration, beside those of the first one. -/
inductive AllAgain (s s' : Surroundings) : List Declaration → List Outcome → List Outcome → Prop
  | nil : AllAgain s s' [] [] []
  | cons {d : Declaration} {ds : List Declaration} {o o' : Outcome} {outcomes outcomes' : List Outcome}
    (h : Again s s' d o o') (hrest : AllAgain s s' ds outcomes outcomes') :
    AllAgain s s' (d :: ds) (o :: outcomes) (o' :: outcomes')

/-- Where the same texts are to be written, all that was as it should be is unchanged. -/
theorem AllAgain.unchanged {ds : List Declaration} {outcomes outcomes' : List Outcome}
    (h : AllAgain s s' ds outcomes outcomes')
    (hsame : ∀ d ∈ ds, (written? s' d).map Blueprint.render = (written? s d).map Blueprint.render) :
    List.Forall₂ (fun o o' => o.isOk = true →
      o'.status = .emitted .unchanged ∧ o'.path = o.path ∧ o'.module = o.module) outcomes outcomes' := by
  induction h with
  | nil => exact .nil
  | cons hagain _ ih =>
    obtain ⟨hfirst, hrest⟩ := List.forall_mem_cons.mp hsame
    refine .cons (fun hok => ?_) (ih hrest)
    have hunchanged := (hagain.unchanged_iff hok).mpr hfirst
    exact ⟨hunchanged, hagain.names_eq hok hunchanged⟩

/-- **A second round over the same declarations comes to an end, and leaves alone what was as it should
be**, where the same text is to be written. -/
theorem repeats_processAll (hroot : e'.root = e.root) (hnull : hasNull e.root = false) {final : Store}
    {last : List Path} (hlast : Since e.root before last final)
    (hreadable : ∀ p : Path, ".." ∉ p.parts → Running.Undecodable final p →
      Running.Undecodable before p) {ds : List Declaration}
    (hnames : ∀ d ∈ ds, '/' ∉ d.qualifiedName.toList ∧ '\x00' ∉ d.qualifiedName.toList)
    (htexts : ∀ d ∈ ds, ∀ b, builderOf? s d = some b → '\r' ∉ b.render.toList)
    (hcompatible : ∀ d ∈ ds, Compatible s s' d) {progress progress' : Progress}
    (hrefs : Resolving.Sound s progress.refs) (hrefs' : Resolving.Sound s' progress'.refs)
    {run₁ : Run} {outcomes : List Outcome}
    (hfirst : exec (processAll s e progress ds) run = (.ok outcomes, run₁))
    (hstands : List.Forall₂ (Stands s e final) ds outcomes) (hfinal : run₁.store = final)
    (h : Repeats e.root before final progress.paths run.store progress'.paths run'.store) :
    ∃ outcomes' run₂, exec (processAll s' e' progress' ds) run' = (.ok outcomes', run₂) ∧
      AllAgain s s' ds outcomes outcomes' := by
  induction ds generalizing progress progress' run run' outcomes with
  | nil =>
    cases hfirst
    exact ⟨[], run', rfl, .nil⟩
  | cons d rest ih =>
    obtain ⟨⟨hslash, hzero⟩, hothers⟩ := List.forall_mem_cons.mp hnames
    obtain ⟨htext, hrest⟩ := List.forall_mem_cons.mp htexts
    obtain ⟨hsame, hsames⟩ := List.forall_mem_cons.mp hcompatible
    obtain ⟨o, next, runA, others, hone, hall, rfl⟩ := exec_processAll_cons_iff.mp hfirst
    obtain ⟨hstand, hstands⟩ := List.forall₂_cons.mp hstands
    obtain ⟨hnext, heffect⟩ := effect_of_processOne hrefs hone
    have hjudged := judged_processOne hrefs hone
    have hspared : s.tree.kindOf d = .plainClass → Spared s e d progress.paths run.store := by
      rcases worked_processOne hrefs e d run with
        ⟨_, _, _, hone', -, -, -, hspared⟩ | ⟨fault, _, hone', -, -⟩
      · exact hspared
      · cases hone.symm.trans hone'
    have honward : Evolves (fun _ => True) runA.store final :=
      hfinal ▸ (completed_processAll hnext hall).evolves.mono fun _ _ => trivial
    rcases worked_processOne hrefs' e' d run' with
      ⟨o', next', runB, hone', hnext', hreports, heffect', -⟩ | ⟨fault, _, hone', hkind, hhalts⟩
    · have hjudged' := judged_processOne hrefs' hone'
      obtain ⟨others', run₂, hall', hagain⟩ := ih hothers hrest hsames hnext hnext' hall hstands
        (h.step hroot hsame hslash hjudged heffect honward hjudged' heffect')
      have helement : o.element = d.qualifiedName :=
        (List.forall₂_cons.mp (completed_processAll hrefs hfirst).elements).1
      have hiff := fun hok => h.unchanged_iff hroot hslash hjudged hstand htext hjudged' hok
      exact ⟨o' :: others', run₂, exec_processAll_cons_iff.mpr
        ⟨o', next', runB, others', hone', hall', rfl⟩,
        .cons ⟨helement, hreports.element_eq, fun hok => (hiff hok).1, fun hok => (hiff hok).2⟩ hagain⟩
    · exact absurd hhalts
        (h.not_halts hroot hlast hreadable hsame hslash hzero hnull hspared hkind fault)

/-- **A round that is repeated at once comes to an end, and leaves alone what was as it should be**, where
the same declarations are marked, and the same text is to be written for them. -/
theorem repeats_processRound (hroot : e'.root = e.root) (hup : ".." ∉ e.root.parts)
    (hnull : hasNull e.root = false) {tree tree' : Tree} {isLast isLast' : Bool}
    (hmarked : tree'.marked = tree.marked)
    (hcompatible : ∀ d ∈ tree.marked, Compatible (.ofTree tree) (.ofTree tree') d)
    (hnames : ∀ d ∈ tree.marked, '/' ∉ d.qualifiedName.toList ∧ '\x00' ∉ d.qualifiedName.toList)
    (htexts : ∀ d ∈ tree.marked, ∀ b, builderOf? (.ofTree tree) d = some b → '\r' ∉ b.render.toList)
    (hsound : run.store.Sound) {result : RoundResult} {run₁ : Run}
    (hfirst : exec (processRound e tree isLast) run = (.ok result, run₁))
    (hstore : run'.store = run₁.store) :
    ∃ result' run₂, exec (processRound e' tree' isLast') run' = (.ok result', run₂) ∧
      AllAgain (.ofTree tree) (.ofTree tree') tree.marked result.outcomes result'.outcomes := by
  obtain ⟨runA, hcontinues, hall⟩ := exec_processRound_ok hfirst
  obtain ⟨runB, hcontinues', hround⟩ := exec_processRound e' tree' isLast' run'
  have hrefs := Resolving.sound_nil (.ofTree tree)
  have hrefs' : Resolving.Sound (.ofTree tree') (⟨[], []⟩ : Progress).refs :=
    Resolving.sound_nil (.ofTree tree')
  have hslashes : ∀ d ∈ tree.marked, '/' ∉ d.qualifiedName.toList := fun d hd => (hnames d hd).1
  rw [← hcontinues.store_eq] at hsound
  have hstart : Since e.root runA.store [] runA.store := .refl hsound.rooted hup
  obtain ⟨last, hlast⟩ := since_processAll hslashes hrefs hstart hall
  obtain ⟨hfinal, hreadable⟩ := undecodable_of_processAll hrefs hsound hall
  have hevolves := (completed_processAll hrefs hall).evolves
  have hrepeats : Repeats e.root runA.store run₁.store [] runA.store [] runB.store := by
    rw [hcontinues'.store_eq, hstore]
    exact ⟨hstart, hevolves.mono fun _ _ => trivial, .refl hfinal.rooted hup, fun _ => List.Subset.refl _⟩
  obtain ⟨outcomes', run₂, hall', hagain⟩ := repeats_processAll hroot hnull hlast hreadable hnames
    htexts hcompatible hrefs hrefs' hall (stands_processAll hslashes htexts hrefs hall) rfl hrepeats
  rw [← hmarked] at hall'
  refine ⟨⟨outcomes'⟩, run₂, ?_, hagain⟩
  rw [hround, map_eq_pure_bind, exec_bind_of_ok hall', exec_pure]

end FluentBuilder.Processing
