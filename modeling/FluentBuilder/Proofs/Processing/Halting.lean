import FluentBuilder.Proofs.Processing.Round
import FluentBuilder.Proofs.Store.Rooted

/-!
# When a round stops

A declaration that fails should not stop a round, but there are two faults that are not kept to the
declaration: an annotation that cannot be resolved, such as a quoted one with surrogates or the character
of code zero, and a file at the path of a builder whose bytes are no text (`Breaks`). The round stops at
the first plain class with such a fault, unless a root that is blocked has stopped it before (`Fatal`).
`regular_processRound_iff` says that it stops in no other case. The root is one that was resolved, so
that it does not lead up, and names have no slash and no character of code zero in them.

**The route.** Whether a class breaks a round is said of the files at the beginning, and it is found
much later. `Since` is what the round keeps in between: the files that changed are those claimed so far,
and none of them was unreadable. So a file that is not claimed is read as it was at the beginning
(`Since.bytes_iff`), and every step of the round can be seen from there.
-/

namespace FluentBuilder.Processing

open Stateful Source Store

variable {s : Surroundings} {e : Emitter} {d : Declaration} {o : Outcome} {root p : Path}
variable {claimed claimed' : List Path} {before now next : Store}

/-! ### Files that are not claimed -/

/-- What a round keeps of the files at its beginning, which is rooted: only files that were claimed have
changed, all of them below the root, and none of them was unreadable. -/
structure Since (root : Path) (before : Store) (claimed : List Path) (now : Store) : Prop where
  /-- Everything stood below directories. -/
  rooted : before.Rooted
  /-- The root does not lead up. -/
  not_mem : ".." ∉ root.parts
  /-- What was claimed stands below the root. -/
  below : ∀ p ∈ claimed, Path.Below root p
  /-- What was claimed was no file without a text. -/
  readable : ∀ p ∈ claimed, ¬ Running.Undecodable before p
  /-- Only what was claimed has changed. -/
  evolves : Evolves (fun place => ∃ p ∈ claimed, now.placeOf p = .ok place) before now

/-- A path that a round looks at: the root, or a path below it. -/
def Looked (root p : Path) : Prop := p = root ∨ Path.Below root p

/-- A path that a round looks at does not lead up if the root does not. -/
theorem Looked.not_mem (hp : Looked root p) (hroot : ".." ∉ root.parts) : ".." ∉ p.parts := by
  rcases hp with rfl | ⟨further, rfl, -, hfurther⟩
  · exact hroot
  · rw [List.mem_append, not_or]
    exact ⟨hroot, hfurther⟩

namespace Since

/-- Nothing has changed at the beginning. -/
theorem refl (hrooted : before.Rooted) (hroot : ".." ∉ root.parts) :
    Since root before [] before where
  rooted := hrooted
  not_mem := hroot
  below := fun _ h => absurd h List.not_mem_nil
  readable := fun _ h => absurd h List.not_mem_nil
  evolves := Evolves.refl _ _

/-- The place of a path that is not claimed has not changed. -/
theorem not_changed (h : Since root before claimed now) (hp : Looked root p) (hfree : p ∉ claimed)
    {place : Place} (hplace : now.placeOf p = .ok place) :
    ¬ ∃ q ∈ claimed, now.placeOf q = .ok place := by
  rintro ⟨q, hq, hqplace⟩
  rcases hp with rfl | hp
  · obtain ⟨further, -, hne, heq⟩ := placeOf_of_below (h.below q hq) hqplace
    rw [eq_reach_of_placeOf hplace] at heq
    exact hne (List.self_eq_append_right.mp heq)
  · exact hfree (eq_of_placeOf_eq rfl hp (h.below q hq) hplace hqplace ▸ hq)

/-- **A file that is not claimed is read as it was at the beginning.** -/
theorem bytes_iff (h : Since root before claimed now) (hp : Looked root p) (hfree : p ∉ claimed)
    (bytes : List UInt8) : now.bytes p = .ok bytes ↔ before.bytes p = .ok bytes := by
  constructor
  · exact bytes_of_evolves h.rooted h.evolves (hp.not_mem h.not_mem) fun place hplace =>
      h.not_changed hp hfree hplace
  · intro hbytes
    obtain ⟨-, place, hplace, -⟩ := bytes_eq_ok_iff.mp hbytes
    exact h.evolves.bytes_eq hplace (h.not_changed hp hfree (h.evolves.placeOf_eq hplace)) hbytes

/-- What is unreadable was so at the beginning. -/
theorem undecodable_iff (h : Since root before claimed now) (hp : Path.Below root p)
    (hfree : p ∉ claimed) : Running.Undecodable now p ↔ Running.Undecodable before p := by
  simp only [Running.Undecodable, h.bytes_iff (.inr hp) hfree]

/-- A root that is blocked was so at the beginning. -/
theorem blocked_iff (h : Since root before claimed now) :
    Running.Blocked now root ↔ Running.Blocked before root := by
  have hfree : root ∉ claimed := by
    intro hmem
    obtain ⟨further, heq, hne, -⟩ := h.below root hmem
    exact hne (List.self_eq_append_right.mp (congrArg Path.parts heq))
  simp only [Running.blocked_iff, h.bytes_iff (.inl rfl) hfree]

/-- One more file is claimed, and perhaps written. -/
theorem claim (h : Since root before claimed now) (hp : Path.Below root p)
    (hread : ¬ Running.Undecodable before p)
    (hevolves : Evolves (fun place => next.placeOf p = .ok place) now next) :
    Since root before (claimed ++ [p]) next where
  rooted := h.rooted
  not_mem := h.not_mem
  below := List.forall_mem_append.mpr ⟨h.below, by simpa using hp⟩
  readable := List.forall_mem_append.mpr ⟨h.readable, by simpa using hread⟩
  evolves := by
    refine Evolves.trans (h.evolves.mono fun place hplace => ?_) (hevolves.mono fun place hplace => ?_)
    · obtain ⟨q, hq, hqplace⟩ := hplace
      exact ⟨q, List.mem_append_left _ hq, hevolves.placeOf_eq hqplace⟩
    · exact ⟨p, List.mem_append_right _ List.mem_cons_self, hplace⟩

/-- The work on a declaration keeps this. -/
theorem step (h : Since e.root before claimed now) (hslash : '/' ∉ d.qualifiedName.toList)
    (heffect : Effect s e d claimed now o claimed' next) : Since e.root before claimed' next := by
  cases heffect with
  | untouched => exact h
  | written hb hfree hread hstatus hpath hcheck hwritten =>
    have hbelow := below_of_builderOf? hslash hb e.root
    obtain ⟨-, place, hplace, -, hevolves⟩ := hwritten
    rw [h.undecodable_iff hbelow hfree] at hread
    refine h.claim hbelow hread (hevolves.mono fun other hother => ?_)
    rw [hother, hplace]
  | unwritten hb hfree hread hstatus hpath hevolves =>
    have hbelow := below_of_builderOf? hslash hb e.root
    rw [h.undecodable_iff hbelow hfree] at hread
    exact h.claim hbelow hread (hevolves.mono fun _ => False.elim)

end Since

/-! ### What breaks a round -/

/-- A class breaks a round over some files: an annotation cannot be resolved, or the file at the path of
the builder is no text. -/
def Breaks (s : Surroundings) (e : Emitter) (store : Store) (d : Declaration) : Prop :=
  (∃ fault, schemaOf s d = .error (.resolve fault)) ∨
    ∃ b, builderOf? s d = some b ∧ Running.Undecodable store (b.outputPath e.root)

/-- Where the root is blocked, no class with a builder breaks a round. -/
theorem not_breaks_of_blocked (hrooted : before.Rooted) (hslash : '/' ∉ d.qualifiedName.toList)
    {b : Blueprint} (hb : builderOf? s d = some b) (hblocked : Running.Blocked before e.root) :
    ¬ Breaks s e before d := by
  rintro (⟨fault, hfault⟩ | ⟨b', hb', bytes, hbytes, -⟩)
  · obtain ⟨schema, hschema, -⟩ := exists_of_builderOf? hb
    cases hschema.symm.trans hfault
  · -- The file below the root makes the root a directory.
    obtain ⟨root, hroot⟩ := Running.blocked_iff.mp hblocked
    obtain ⟨-, place, hplace, hfile⟩ := bytes_eq_ok_iff.mp hroot
    obtain ⟨-, place', hplace', hfile'⟩ := bytes_eq_ok_iff.mp hbytes
    obtain ⟨further, -, hne, heq⟩ :=
      placeOf_of_below (below_of_builderOf? hslash hb' e.root) hplace'
    rw [← eq_reach_of_placeOf hplace] at heq
    have hdirectory : before.node? place = some .directory := by
      refine hrooted.directory hne ?_
      rw [← heq, fileAt_eq_some_iff.mp hfile']
      exact Option.some_ne_none _
    cases hdirectory.symm.trans (fileAt_eq_some_iff.mp hfile)

/-- A class that is spared breaks no round. -/
theorem Since.not_breaks (h : Since e.root before claimed now)
    (hslash : '/' ∉ d.qualifiedName.toList) (hspared : Spared s e d claimed now) :
    ¬ Breaks s e before d := by
  rintro (⟨fault, hfault⟩ | ⟨b, hb, hbytes⟩)
  · exact hspared.resolved fault hfault
  have hbelow := below_of_builderOf? hslash hb e.root
  obtain ⟨-, hpath⟩ := hspared.builder b hb
  by_cases hclaimed : b.outputPath e.root ∈ claimed
  · exact h.readable _ hclaimed hbytes
  rcases hpath with hmem | hnot | ⟨fault, hlook⟩
  · exact hclaimed hmem
  · exact hnot ((h.undecodable_iff hbelow hclaimed).mpr hbytes)
  · -- Where the file is found, the root is found too.
    obtain ⟨bytes, hread, -⟩ := hbytes
    obtain ⟨node, hnode⟩ := h.evolves.exists_look_of_below hbelow hread
    cases hlook.symm.trans hnode

/-- What ends the work on a class breaks the round, unless the root is blocked. -/
theorem Since.breaks_or_blocked (h : Since e.root before claimed now)
    (hnull : hasNull e.root = false) (hslash : '/' ∉ d.qualifiedName.toList)
    (hzero : '\x00' ∉ d.qualifiedName.toList) {fault : RunFault} (hhalts : Halts s e d claimed now fault) :
    ((∀ reason, fault ≠ .config reason) ∧ Breaks s e before d) ∨
      ∃ reason b, fault = .config reason ∧ builderOf? s d = some b ∧
        Running.Blocked before e.root := by
  cases hhalts with
  | unresolved hschema => exact .inl ⟨fun _ => RunFault.noConfusion, .inl ⟨_, hschema⟩⟩
  | blocked hb hblocked =>
    exact .inr ⟨_, _, rfl, hb, h.blocked_iff.mp hblocked⟩
  | undecodable hb hfit hfree hbytes =>
    have hbelow := below_of_builderOf? hslash hb e.root
    exact .inl ⟨fun _ => RunFault.noConfusion,
      .inr ⟨_, hb, (h.undecodable_iff hbelow hfree).mp hbytes⟩⟩
  | nullCharacter hb hpath => cases (hasNull_of_builderOf? hslash hzero hb hnull).symm.trans hpath

/-- A plain class breaks a round, and no root that is blocked has stopped it before. -/
def Fatal (s : Surroundings) (e : Emitter) (store : Store) (ds : List Declaration) : Prop :=
  ∃ front d back, ds = front ++ d :: back ∧ s.tree.kindOf d = .plainClass ∧ Breaks s e store d ∧
    (Running.Blocked store e.root →
      ∀ d' ∈ front, s.tree.kindOf d' = .plainClass → builderOf? s d' = none)

/-- The first declaration is fatal, or the others are and it does not stop the round before. -/
theorem fatal_cons {store : Store} {rest : List Declaration} :
    Fatal s e store (d :: rest) ↔ (s.tree.kindOf d = .plainClass ∧ Breaks s e store d) ∨
      (Running.Blocked store e.root → s.tree.kindOf d = .plainClass → builderOf? s d = none) ∧
        Fatal s e store rest := by
  constructor
  · rintro ⟨_ | ⟨d', front⟩, d'', back, hsplit, hkind, hbreaks, hbefore⟩
    · obtain ⟨rfl, rfl⟩ := List.cons.inj hsplit
      exact .inl ⟨hkind, hbreaks⟩
    · obtain ⟨rfl, rfl⟩ := List.cons.inj hsplit
      exact .inr ⟨fun hblocked => hbefore hblocked d List.mem_cons_self, front, d'', back, rfl, hkind,
        hbreaks, fun hblocked d' hd' => hbefore hblocked d' (List.mem_cons_of_mem _ hd')⟩
  · rintro (⟨hkind, hbreaks⟩ | ⟨hfirst, front, d', back, rfl, hkind, hbreaks, hbefore⟩)
    · exact ⟨[], d, rest, rfl, hkind, hbreaks, fun _ _ h => absurd h List.not_mem_nil⟩
    · exact ⟨d :: front, d', back, rfl, hkind, hbreaks, fun hblocked =>
        List.forall_mem_cons.mpr ⟨hfirst hblocked, hbefore hblocked⟩⟩

/-! ### Rounds -/

/-- A part fails with another fault than one of the configuration. -/
def Stops {α : Type} (result : Except RunFault α) : Prop :=
  ∃ fault, result = .error fault ∧ ∀ reason, fault ≠ .config reason

/-- What is made of a result does not matter. -/
theorem stops_bind_pure {α β : Type} (part : Running α) (f : α → β) (run : Run) :
    Stops (exec (part >>= fun a => pure (f a)) run).1 ↔ Stops (exec part run).1 := by
  rw [exec_bind]
  rcases exec part run with ⟨fault | a, run'⟩
  · simp [Stops]
  · simp [Stops]

/-- **The work on declarations stops iff one of them is fatal**, as seen from the files at the
beginning. -/
theorem stops_processAll_iff (hnull : hasNull e.root = false) {ds : List Declaration}
    (hnames : ∀ d ∈ ds, '/' ∉ d.qualifiedName.toList ∧ '\x00' ∉ d.qualifiedName.toList)
    {progress : Progress} (hrefs : Resolving.Sound s progress.refs) {run : Run}
    (h : Since e.root before progress.paths run.store) :
    Stops (exec (processAll s e progress ds) run).1 ↔ Fatal s e before ds := by
  induction ds generalizing progress run with
  | nil =>
    constructor
    · rintro ⟨fault, hfault, -⟩
      cases hfault
    · rintro ⟨front, d, back, hsplit, -⟩
      cases front <;> cases hsplit
  | cons d rest ih =>
    obtain ⟨⟨hslash, hzero⟩, hrest⟩ := List.forall_mem_cons.mp hnames
    rw [processAll, fatal_cons]
    rcases worked_processOne hrefs e d run with
      ⟨o, progress', run', hone, hrefs', -, heffect, hspared⟩ | ⟨fault, run', hone, hkind, hhalts⟩
    · rw [exec_bind_of_ok hone]
      have hnot : ¬ (s.tree.kindOf d = .plainClass ∧ Breaks s e before d) := by
        rintro ⟨hkind, hbreaks⟩
        exact h.not_breaks hslash (hspared hkind) hbreaks
      have hpassed : Running.Blocked before e.root → s.tree.kindOf d = .plainClass →
          builderOf? s d = none := by
        intro hblocked hkind
        by_contra hsome
        obtain ⟨b, hb⟩ := Option.ne_none_iff_exists'.mp hsome
        exact ((hspared hkind).builder b hb).1 (h.blocked_iff.mpr hblocked)
      rw [or_iff_right hnot, and_iff_right hpassed, ← ih hrest hrefs'
        (h.step hslash heffect)]
      exact stops_bind_pure _ _ run'
    · rw [exec_bind_of_error hone]
      rcases h.breaks_or_blocked hnull hslash hzero hhalts with
        ⟨hother, hbreaks⟩ | ⟨reason, b, rfl, hb, hblocked⟩
      · exact ⟨fun _ => .inl ⟨hkind, hbreaks⟩, fun _ => ⟨fault, rfl, hother⟩⟩
      · constructor
        · rintro ⟨fault, hfault, hother⟩
          exact absurd (Except.error.inj hfault).symm (hother reason)
        · rintro (⟨-, hbreaks⟩ | ⟨hpassed, -⟩)
          · exact absurd hbreaks (not_breaks_of_blocked h.rooted hslash hb hblocked)
          · cases hb.symm.trans (hpassed hblocked hkind)

/-- **A round stops iff a plain class is fatal.** It has an outcome for every marked declaration, or it
refuses the configuration, unless there is a plain class of which an annotation cannot be resolved, or
at the path of whose builder there is a file that is no text, and no blocked root has stopped the round
before. What is asked of names holds of every tree that is loaded (`Loaded.plain`). -/
theorem regular_processRound_iff (e : Emitter) (tree : Tree) (isLast : Bool) (run : Run)
    (hnames : ∀ d ∈ tree.marked, '/' ∉ d.qualifiedName.toList ∧ '\x00' ∉ d.qualifiedName.toList)
    (hroot : ".." ∉ e.root.parts) (hnull : hasNull e.root = false) (hrooted : run.store.Rooted) :
    ((∃ result run', exec (processRound e tree isLast) run = (.ok result, run') ∧
        List.Forall₂ (fun d o => o.element = d.qualifiedName) tree.marked result.outcomes) ∨
      ∃ reason run', exec (processRound e tree isLast) run = (.error (.config reason), run')) ↔
    ¬ Fatal (Surroundings.ofTree tree) e run.store tree.marked := by
  obtain ⟨run₁, hcontinues, hround⟩ := exec_processRound e tree isLast run
  have hbegin : Since e.root run.store [] run₁.store := by
    rw [hcontinues.store_eq]
    exact Since.refl hrooted hroot
  have hstops : Stops (exec (processAll (Surroundings.ofTree tree) e ⟨[], []⟩ tree.marked) run₁).1 ↔
      Fatal (Surroundings.ofTree tree) e run.store tree.marked :=
    stops_processAll_iff hnull hnames (Resolving.sound_nil _) hbegin
  rw [← hstops, hround, map_eq_pure_bind, exec_bind]
  rcases hall : exec (processAll (Surroundings.ofTree tree) e ⟨[], []⟩ tree.marked) run₁ with
    ⟨fault | outcomes, run'⟩
  · constructor
    · rintro (⟨result, run'', hresult, -⟩ | ⟨reason, run'', hresult⟩) ⟨fault', hfault, hother⟩
      · cases hresult
      · obtain rfl := Except.error.inj hfault
        exact hother reason (Except.error.inj (Prod.mk.inj hresult).1)
    · intro hregular
      by_contra hnot
      refine hregular ⟨fault, rfl, fun reason hreason => hnot (.inr ⟨reason, run', ?_⟩)⟩
      rw [hreason]
  · constructor
    · rintro - ⟨fault, hfault, -⟩
      cases hfault
    · intro _
      exact .inl ⟨⟨outcomes⟩, run', rfl,
        (completed_processAll (Resolving.sound_nil _) hall).elements⟩

/-- A file that is no text stands where the builder of the first class of the garage is to be. -/
def spoiled : Store :=
  ⟨[(["out"], .directory), (["out", "CarBuilder.py"], .file [0xff])], [], "/root"⟩

/-- The file stops the round. -/
theorem exec_garage_of_spoiled :
    ∃ fault run', exec (processRound ⟨Path.ofText "/out", false⟩ garage false) ⟨spoiled, [], []⟩ =
      (.error (.undecodable fault), run') := by
  have hfault : (exec (processRound ⟨Path.ofText "/out", false⟩ garage false)
      ⟨spoiled, [], []⟩).1 = .error (.undecodable ⟨0xff, 0, 1, .invalidStart⟩) := by rfl
  exact ⟨_, _, Prod.ext hfault rfl⟩

/-- No round over these files has outcomes, and none refuses the configuration. -/
theorem not_regular_of_spoiled :
    ¬ ((∃ result run', exec (processRound ⟨Path.ofText "/out", false⟩ garage false)
        ⟨spoiled, [], []⟩ = (.ok result, run') ∧
        List.Forall₂ (fun d o => o.element = d.qualifiedName) garage.marked result.outcomes) ∨
      ∃ reason run', exec (processRound ⟨Path.ofText "/out", false⟩ garage false)
        ⟨spoiled, [], []⟩ = (.error (.config reason), run')) := by
  obtain ⟨fault, run', h⟩ := exec_garage_of_spoiled
  rw [h]
  rintro (⟨result, run'', hresult, -⟩ | ⟨reason, run'', hresult⟩)
  · cases hresult
  · cases hresult

/-- So one of the classes is fatal. -/
theorem fatal_of_spoiled :
    Fatal (Surroundings.ofTree garage) ⟨Path.ofText "/out", false⟩ spoiled garage.marked := by
  have hrooted : spoiled.Rooted := rooted_of_nodes (by decide)
  have hregular := regular_processRound_iff ⟨Path.ofText "/out", false⟩ garage false
    ⟨spoiled, [], []⟩ (by decide) (by decide) (by decide) hrooted
  by_contra hnot
  obtain ⟨fault, run', h⟩ := exec_garage_of_spoiled
  rw [h] at hregular
  rcases hregular.mpr hnot with ⟨result, run'', hresult, -⟩ | ⟨reason, run'', hresult⟩
  · cases hresult
  · cases hresult

end FluentBuilder.Processing
