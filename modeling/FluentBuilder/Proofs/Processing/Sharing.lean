import FluentBuilder.Proofs.Processing.Dependence
import FluentBuilder.Proofs.Resolving.Serving

/-!
# One resolver for all classes of a round

The classes of a round are described by one resolver, so that each of them is described with the table that
the classes before it have left. This has no influence on what is answered for a class, nor on the outcomes
and the files of a round (`table_irrelevant`): whatever the resolver was asked before, all is as with one
that was asked nothing.

**The route.** Two parts of a round come to the same if they do so from the same files (`ComeAlike`). The
work on a class with one table comes to the same as with another one, because the schema is the same and
nothing else is read from the table; the tables that are left may differ, but both are canonical
(`SameClaims`). A round follows by induction along the declarations.
-/

namespace FluentBuilder.Processing

open Stateful Source Resolving

variable {s : Surroundings} {α β γ δ : Type}

/-! ### Parts that come to the same -/

/-- Two parts come to the same from the same files: they have the same fault, or results that are related,
and they leave the same files. -/
def ComeAlike (R : α → β → Prop) (part : Running α) (part' : Running β) : Prop :=
  ∀ run run' : Run, run'.store = run.store →
    Outcome.Agree R (exec part run).1 (exec part' run').1 ∧
      (exec part' run').2.store = (exec part run).2.store

namespace ComeAlike

/-- Results that are related. -/
theorem pure {R : α → β → Prop} {a : α} {b : β} (h : R a b) :
    ComeAlike R (pure a : Running α) (pure b : Running β) :=
  fun _ _ hstore => ⟨.ok h, hstore⟩

/-- A part that depends on the files alone comes to the same as itself. -/
theorem of_dependsOnFiles {part : Running α} (h : DependsOnFiles part) : ComeAlike Eq part part := by
  intro run run' hstore
  obtain ⟨hresult, hfiles⟩ := h run run' hstore
  exact ⟨Outcome.agree_eq_iff.mpr hresult.symm, hfiles⟩

/-- Parts that come to the same, each after one of two others that do. -/
theorem bind {R : α → β → Prop} {S : γ → δ → Prop} {part : Running α} {part' : Running β}
    {next : α → Running γ} {next' : β → Running δ} (h : ComeAlike R part part')
    (hnext : ∀ a b, R a b → ComeAlike S (next a) (next' b)) :
    ComeAlike S (part >>= next) (part' >>= next') := by
  intro run run' hstore
  obtain ⟨hresult, hfiles⟩ := h run run' hstore
  rw [exec_bind, exec_bind]
  generalize exec part run = first, exec part' run' = first' at hresult hfiles
  obtain ⟨result, after⟩ := first
  obtain ⟨result', after'⟩ := first'
  cases hresult with
  | error fault => exact ⟨.error fault, hfiles⟩
  | ok hab => exact hnext _ _ hab after after' hfiles

/-- Parts that come to the same, both after a part that depends on the files alone. -/
theorem after {S : γ → δ → Prop} {part : Running α} {next : α → Running γ} {next' : α → Running δ}
    (h : DependsOnFiles part) (hnext : ∀ a, ComeAlike S (next a) (next' a)) :
    ComeAlike S (part >>= next) (part >>= next') := by
  refine bind (of_dependsOnFiles h) ?_
  rintro a _ rfl
  exact hnext a

end ComeAlike

/-! ### Rounds with references known before -/

/-- What a round knows in two runs: the same but for the references, which are canonical in both. -/
structure SameClaims (s : Surroundings) (progress progress' : Progress) : Prop where
  /-- The same files were claimed. -/
  claimed_eq : progress'.claimed = progress.claimed
  /-- The references of the first run are canonical. -/
  sound : Sound s progress.refs
  /-- So are those of the second one. -/
  sound' : Sound s progress'.refs

namespace ComeAlike

/-- A class is described alike, whatever references are known. -/
theorem describe {refs refs' : Table TypeRef} (h : Sound s refs) (h' : Sound s refs') (d : Declaration) :
    ComeAlike (fun found found' => found'.1 = found.1 ∧ Sound s found.2 ∧ Sound s found'.2)
      (describe s d refs) (describe s d refs') := by
  intro run run' hstore
  obtain ⟨_, _, hdescribe, hsound, hcontinues⟩ := exec_describe h d run
  obtain ⟨_, _, hdescribe', hsound', hcontinues'⟩ := exec_describe h' d run'
  rw [hdescribe, hdescribe']
  exact ⟨.ok ⟨rfl, hsound, hsound'⟩, by rw [hcontinues.store_eq, hcontinues'.store_eq, hstore]⟩

/-- The work on a class comes to the same. -/
theorem processClass {progress progress' : Progress} (h : SameClaims s progress progress') (e : Emitter)
    (d : Declaration) :
    ComeAlike (fun ended ended' => ended'.1 = ended.1 ∧ SameClaims s ended.2 ended'.2)
      (processClass s e d progress) (processClass s e d progress') := by
  rw [Processing.processClass, Processing.processClass, h.claimed_eq]
  refine bind (describe h.sound h.sound' d) ?_
  rintro ⟨fault | schema, refs⟩ ⟨_, refs'⟩ ⟨rfl, hsound, hsound'⟩
  · exact after (.failedOutcome d _) fun o => pure ⟨rfl, rfl, hsound, hsound'⟩
  · refine after (.attempt (.writeBuilder e d schema _)) fun written => ?_
    obtain fault | ⟨o, claimed⟩ | ⟨b, claimed⟩ := written
    · exact after (.failedOutcome d _) fun o => pure ⟨rfl, rfl, hsound, hsound'⟩
    · exact pure ⟨rfl, rfl, hsound, hsound'⟩
    · refine after (.attempt (.emit e.root e.check b)) fun emitted => ?_
      obtain fault | ⟨path, status⟩ := emitted
      · exact after (.failedOutcome d _) fun o => pure ⟨rfl, rfl, hsound, hsound'⟩
      · exact after (.emittedOutcome d b path status) fun o => pure ⟨rfl, rfl, hsound, hsound'⟩

/-- The work on a declaration comes to the same. -/
theorem processOne {progress progress' : Progress} (h : SameClaims s progress progress') (e : Emitter)
    (d : Declaration) :
    ComeAlike (fun ended ended' => ended'.1 = ended.1 ∧ SameClaims s ended.2 ended'.2)
      (processOne s e d progress) (processOne s e d progress') := by
  rw [Processing.processOne, Processing.processOne]
  split
  · exact processClass h e d
  · have hinvalid : DependsOnFiles (invalidOutcome d (s.tree.kindOf d)) :=
      .bind (.error _ _ _ _) fun _ => .pure _
    exact after hinvalid fun o => pure ⟨rfl, h⟩

/-- **The work on all declarations comes to the same.** -/
theorem processAll {progress progress' : Progress} (h : SameClaims s progress progress') (e : Emitter)
    (ds : List Declaration) : ComeAlike Eq (processAll s e progress ds) (processAll s e progress' ds) := by
  induction ds generalizing progress progress' with
  | nil => exact pure rfl
  | cons d rest ih =>
    rw [Processing.processAll, Processing.processAll]
    refine bind (processOne h e d) ?_
    rintro ⟨o, progress⟩ ⟨_, progress'⟩ ⟨rfl, hclaims⟩
    refine bind (ih hclaims) ?_
    rintro others _ rfl
    exact pure rfl

end ComeAlike

end FluentBuilder.Processing
