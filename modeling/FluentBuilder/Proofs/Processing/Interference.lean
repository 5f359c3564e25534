import FluentBuilder.Proofs.Processing.Generation
import FluentBuilder.Proofs.Processing.Passes
import FluentBuilder.Proofs.Source.Undecorated

/-!
# Declarations do not interfere

What becomes of a class with a builder depends on the class alone, and on the files that were there before
the round, unless an earlier class has claimed the file of its builder: `undisturbed_processRound` compares
a round with one over a tree in which nothing else is marked. The outcomes are the same, diagnostics
included, and so is the file in the end. The exception are names that are too long: which path is refused
first depends on the directories that stand already, and those may be the work of an earlier class, so that
another path may be named in the diagnostic. Every later class with a builder in the same file fails, and
writes nothing.

**The route.** The outcome of a class whose file is free is made from what comes of emitting its builder
(`outcome_of_processOne`). This is the same after other builders were written (`Like.agrees`), whose files
are apart from it. From then on the file is taken (`Taken`): no later declaration can open it, so that it
stays as it is. The marks of the other declarations play no part (`builderOf?_undecorated`).
-/

namespace FluentBuilder.Processing

open Stateful Source Store Filing

variable {s : Surroundings} {e : Emitter} {d d' : Declaration} {b : Blueprint} {o : Outcome} {root p : Path}
variable {claimed claimed' : List Path} {store before after : Store} {run run' : Run}

/-! ### A class after others -/

/-- The file of a builder holds its text after it was generated, and is as it was otherwise. -/
theorem Handled.bytes (h : Handled e b claimed before o after) (hrooted : before.Rooted)
    (hup : ".." ∉ (b.outputPath e.root).parts) :
    (o.status = .emitted .generated →
      after.bytes (b.outputPath e.root) = .ok (Utf8.encode b.render)) ∧
    (o.status ≠ .emitted .generated → ∀ bytes,
      after.bytes (b.outputPath e.root) = .ok bytes ↔ before.bytes (b.outputPath e.root) = .ok bytes) := by
  have hkept : ∀ {status : Status}, o.status = status → status ≠ .emitted .generated →
      (o.status = .emitted .generated →
        before.bytes (b.outputPath e.root) = .ok (Utf8.encode b.render)) := fun hstatus hne hgenerated =>
    absurd (hstatus.symm.trans hgenerated) hne
  cases h with
  | unopened _ hstatus => exact ⟨hkept hstatus (by decide), fun _ _ => .rfl⟩
  | upToDate _ hstatus => exact ⟨hkept hstatus (by decide), fun _ _ => .rfl⟩
  | @drifted existing _ _ _ hstatus =>
    exact ⟨hkept hstatus (by cases existing <;> simp), fun _ _ => .rfl⟩
  | written _ _ _ hwrite hstatus =>
    refine ⟨fun _ => ?_, fun hne => absurd hstatus hne⟩
    rcases writeWhole_spec (b.outputPath e.root) (Utf8.encode b.render) before with
      ⟨fault, _, hfailed, -⟩ | ⟨place, _, hwritten, hnull, hplace, hfile, -⟩
    · cases hwrite.symm.trans hfailed
    · obtain ⟨-, rfl⟩ := Prod.mk.inj (hwrite.symm.trans hwritten)
      exact bytes_eq_ok_iff.mpr ⟨hnull, place, hplace, hfile⟩
  | unwritten _ _ _ hwrite _ hstatus =>
    refine ⟨fun hgenerated => (by cases hstatus.symm.trans hgenerated), fun _ bytes => ?_⟩
    rcases writeWhole_spec (b.outputPath e.root) (Utf8.encode b.render) before with
      ⟨fault, _, hfailed, hevolves⟩ | ⟨place, _, hwritten, -⟩
    · obtain ⟨-, rfl⟩ := Prod.mk.inj (hwrite.symm.trans hfailed)
      refine ⟨bytes_of_evolves hrooted hevolves hup fun _ _ => not_false, fun hbytes => ?_⟩
      obtain ⟨-, place, hplace, -⟩ := bytes_eq_ok_iff.mp hbytes
      exact hevolves.bytes_eq hplace not_false hbytes
    · cases hwrite.symm.trans hwritten

/-- So it is with the file of the builder of a class. -/
theorem Judged.bytes (h : Judged s e d claimed before o claimed' after) (hb : written? s d = some b)
    (hrooted : before.Rooted) (hup : ".." ∉ (b.outputPath e.root).parts) :
    (o.status = .emitted .generated →
      after.bytes (b.outputPath e.root) = .ok (Utf8.encode b.render)) ∧
    (o.status ≠ .emitted .generated → ∀ bytes,
      after.bytes (b.outputPath e.root) = .ok bytes ↔ before.bytes (b.outputPath e.root) = .ok bytes) := by
  obtain ⟨hkind, hb⟩ := written?_eq_some_iff.mp hb
  cases h with
  | invalid hother => exact absurd hkind hother
  | unbuilt _ hnone => cases hb.symm.trans hnone
  | built _ hb' hhandled =>
    obtain rfl := Option.some.inj (hb.symm.trans hb')
    exact hhandled.bytes hrooted hup

/-- **After other builders were written, another one is emitted as it would have been before.** -/
theorem agrees_of_passes {front : List Declaration} (hroot : Resolved e.root) (hsound : run.store.Sound)
    (hnames : ∀ c ∈ front, Plain c) (hd : Plain d) (hb : written? s d = some b)
    (hfirst : b.outputPath e.root ∉ filesOf s e front) {outcomes : List Outcome} {progress' : Progress}
    (h : Passes s e front ⟨[], []⟩ run outcomes progress' run') :
    Agrees (emission e.root e.check b run.store) (emission e.root e.check b run'.store) := by
  have hrefs := Resolving.sound_nil s
  have hall := passes_iff.mpr ⟨progress', h⟩
  obtain ⟨-, hbuilder⟩ := written?_eq_some_iff.mp hb
  have htarget := target_outputPath hd hbuilder hroot
  obtain ⟨root, check⟩ := e
  cases check with
  | true =>
    -- Nothing is written.
    have hleaves := LeavesFiles.processAll s root ⟨[], []⟩ front run
    rw [hall] at hleaves
    rw [show run'.store = run.store from hleaves]
    exact .inl rfl
  | false =>
    have hsince := h.since (fun c hc => (hnames c hc).1) hrefs
      (Since.refl hsound.rooted hroot.not_up : Since root run.store [] run.store)
    have hextended := extended_processAll hnames hroot hrefs hall
    have hlike : Like root (b.outputPath root) run.store run'.store := {
      target := htarget
      rooted := hsound.rooted
      rooted' := (h.sound hrefs hsound).rooted
      evolves := (completed_processAll hrefs hall).evolves.mono fun _ _ => trivial
      alike := alike_of_extended hextended fun q hq => by
        obtain ⟨c, hc, b', hb', rfl⟩ := mem_filesOf.mp hq
        exact apart_of_builderOf? hd hbuilder (hnames c hc) (written?_eq_some_iff.mp hb').2 root
      bytes_iff := hsince.bytes_iff (.inr htarget.below) (h.free hfirst)
      blocked_iff := hsince.blocked_iff }
    exact hlike.agrees

/-- The outcomes of a class in two rounds are the same, but that another path may be named where both have
failed because a name is too long. -/
def SameOutcome (d : Declaration) (o o' : Outcome) : Prop :=
  o' = o ∨ ∃ path path', o = refusal d (.store (.nameTooLong path)) ∧
    o' = refusal d (.store (.nameTooLong path'))

/-- Builders that are emitted alike make the same outcomes. -/
theorem sameOutcome_of_agrees {result result' : Except RunFault (Path × EmitStatus)}
    (h : Agrees result result') : SameOutcome d (outcomeOf d b result') (outcomeOf d b result) := by
  rcases h with rfl | ⟨path, path', rfl, rfl⟩
  · exact .inl rfl
  · exact .inr ⟨path', path, rfl, rfl⟩

/-- The same outcomes have the same status. -/
theorem SameOutcome.status_eq {o o' : Outcome} (h : SameOutcome d o o') : o'.status = o.status := by
  rcases h with rfl | ⟨path, path', rfl, rfl⟩
  · rfl
  · rw [status_refusal, status_refusal]

/-- **A class after others has the outcome that it has by itself, and its file is the same afterwards.** -/
theorem sameOutcome_of_passes {s' : Surroundings} {front : List Declaration} (hroot : Resolved e.root)
    {runA runB runC runD : Run} (hsound : runA.store.Sound) (hstore : runD.store = runA.store)
    (hnames : ∀ c ∈ front, Plain c) (hd : Plain d) (hb : written? s d = some b)
    (hb' : written? s' d' = some b) (hsame : ∀ result, outcomeOf d' b result = outcomeOf d b result)
    (hfirst : b.outputPath e.root ∉ filesOf s e front) {outcomes : List Outcome} {o o' : Outcome}
    {progress next next' : Progress} (hfront : Passes s e front ⟨[], []⟩ runA outcomes progress runB)
    (hone : exec (processOne s e d progress) runB = (.ok (o, next), runC))
    (halone : exec (processOne s' e d' ⟨[], []⟩) runD = (.ok (o', next'), run')) :
    SameOutcome d o o' ∧ ∀ bytes, run'.store.bytes (b.outputPath e.root) = .ok bytes ↔
      runC.store.bytes (b.outputPath e.root) = .ok bytes := by
  have hrefs := Resolving.sound_nil s
  have hrefs' := Resolving.sound_nil s'
  obtain ⟨hkind, hbuilder⟩ := written?_eq_some_iff.mp hb
  have houtcome := outcome_of_processOne (hfront.sound_refs hrefs) hb (hfront.free hfirst) hone
  have houtcome' := outcome_of_processOne hrefs' hb' (fun hmem => List.not_mem_nil hmem) halone
  have hagrees := agrees_of_passes hroot hsound hnames hd hb hfirst hfront
  have houtcomes : SameOutcome d o o' := by
    rw [houtcome, houtcome', hsame, hstore]
    exact sameOutcome_of_agrees hagrees
  refine ⟨houtcomes, fun bytes => ?_⟩
  -- The file was the same before, and the status says what became of it.
  have htarget := target_outputPath hd hbuilder hroot
  have hbefore := (hfront.since (fun c hc => (hnames c hc).1) hrefs
    (Since.refl hsound.rooted hroot.not_up : Since e.root runA.store [] runA.store)).bytes_iff
      (.inr htarget.below) (hfront.free hfirst) bytes
  obtain ⟨hwritten, hkept⟩ := (judged_processOne (hfront.sound_refs hrefs) hone).bytes hb
    (hfront.sound hrefs hsound).rooted htarget.path.not_up
  obtain ⟨hwritten', hkept'⟩ := (judged_processOne hrefs' halone).bytes hb' (hstore ▸ hsound.rooted)
    htarget.path.not_up
  by_cases hstatus : o.status = .emitted .generated
  · rw [hwritten hstatus, hwritten' (houtcomes.status_eq.trans hstatus)]
  · rw [hkept hstatus bytes, hkept' (houtcomes.status_eq ▸ hstatus) bytes, hstore, hbefore]

/-! ### Rounds -/

/-- A declaration without decorators makes the same outcomes. -/
theorem outcomeOf_undecorated (d : Declaration) (b : Blueprint)
    (result : Except RunFault (Path × EmitStatus)) :
    outcomeOf d.undecorated b result = outcomeOf d b result := by
  rcases result with fault | ⟨path, status⟩ <;> rfl

/-- A declaration has the same builder where other declarations are marked. -/
theorem written?_of_undecorated {tree tree' : Tree} (htrees : tree'.undecorated = tree.undecorated)
    (hsame : d'.undecorated = d.undecorated) (hd : d ∈ tree.declarations) (hd' : d' ∈ tree'.declarations) :
    written? (.ofTree tree') d' = written? (.ofTree tree) d := by
  have hkind : tree'.kindOf d' = tree.kindOf d := by
    rw [← kindOf_undecorated hd', htrees, hsame, kindOf_undecorated hd]
  have hbuilder : builderOf? (.ofTree tree') d' = builderOf? (.ofTree tree) d := by
    rw [← builderOf?_undecorated hd', htrees, hsame, builderOf?_undecorated hd]
  have hkinds : (Surroundings.ofTree tree').tree.kindOf d' = (Surroundings.ofTree tree).tree.kindOf d := hkind
  rw [written?, written?, hkinds, hbuilder]

/-- A run at its beginning, where there is nothing. -/
def emptyRun : Run := ⟨⟨[], [], "/root"⟩, [], []⟩

/-- A directory to write to, which is not there. -/
def outEmitter : Emitter := ⟨⟨.absolute, ["out"]⟩, false⟩

/-- Nothing stands there but the root. -/
theorem node?_emptyRun {place : Place} {node : Node} (h : emptyRun.store.node? place = some node) :
    node = .directory := by
  cases place with
  | nil => exact (Option.some.inj h).symm
  | cons => cases h

/-- A file system can be so. -/
theorem sound_emptyRun : emptyRun.store.Sound := ⟨rooted_of_nodes (by decide), by decide, rfl⟩

/-- The directory is one that was resolved. -/
theorem resolved_outEmitter : Resolved outEmitter.root := ⟨by decide, by decide, by decide⟩

/-- A round over classes without bases and annotations ends there. -/
theorem exists_processRound_of_emptyRun (tree : Tree) (hnames : ∀ d ∈ tree.marked, Plain d)
    (hbare : ∀ d ∈ tree.marked, d.isBare = true) :
    ∃ result after, exec (processRound outEmitter tree false) emptyRun = (.ok result, after) :=
  exists_processRound_of_isBare resolved_outEmitter sound_emptyRun.rooted hnames hbare
    (fun _ _ hbytes => by
      obtain ⟨-, _, -, hfile⟩ := bytes_eq_ok_iff.mp hbytes
      cases node?_emptyRun (fileAt_eq_some_iff.mp hfile)) false

/-- A module with three classes, of which the builders of the last two have one file. The named ones are
marked. -/
def carport (marked : List String) : Source.Module :=
  let classDef (name : String) (line : Nat) : Syntax.Statement :=
    .classDef name [] (if marked.contains name then [.name "builder"] else []) [] ⟨line, 0⟩
  ⟨"m", Path.ofText "m.py", false, [.importFrom (some "buildergen") [⟨"builder", none⟩] 0,
    classDef "Bike" 2, classDef "Car" 4, classDef "car" 6]⟩

/-- A marked class in it. -/
def parked (marked : List String) (name : String) (line : Nat) : Declaration :=
  ⟨carport marked, [], name, [.name "builder"], ⟨line, 0⟩, .classDef [] []⟩

/-- A module with a class that is named `Car` and a class of another name, and with their decorators. -/
def lane (name : String) (first second : List Syntax.Expr) : Source.Module :=
  ⟨"m", Path.ofText "m.py", false, [.importFrom (some "buildergen") [⟨"builder", none⟩] 0,
    .classDef "Car" [] first [] ⟨2, 0⟩, .classDef name [] second [] ⟨4, 0⟩]⟩

/-- The first of them. -/
def nearCar (name : String) (first second : List Syntax.Expr) : Declaration :=
  ⟨lane name first second, [], "Car", first, ⟨2, 0⟩, .classDef [] []⟩

/-- The other one. -/
def farCar (name : String) (first second : List Syntax.Expr) : Declaration :=
  ⟨lane name first second, [], name, second, ⟨4, 0⟩, .classDef [] []⟩

/-- The name of the file for a class is too long, though nothing else is. -/
structure Oversized (name : String) : Prop where
  /-- It has no point. -/
  not_point : '.' ∉ name.toList
  /-- It is the name of a class. -/
  plain : '/' ∉ name.toList ∧ '\x00' ∉ name.toList
  /-- The name of the file is too long. -/
  long : nameLimit < Utf8.size (builderName name ++ ".py").toList
  /-- Its path is not. -/
  path : Utf8.size (⟨.absolute, ["out", builderName name ++ ".py"]⟩ : Path).render.toList ≤ pathLimit

section

variable {name : String} {first second first' second' : List Syntax.Expr}

/-- The module is in no package. -/
theorem lane_package : (lane name first second).package = "" :=
  show Dotted.parent "m" = "" by decide

/-- The builder of the first class is generated, where nothing was there before. -/
theorem emission_nearCar (hb : builderOf? s (nearCar name first second) = some b) :
    emission outEmitter.root false b emptyRun.store = .ok (b.outputPath outEmitter.root, .generated) ∧
      b.outputPath outEmitter.root = ⟨.absolute, ["out", "CarBuilder.py"]⟩ := by
  have hqualname : (nearCar name first second).qualname = "Car" := Dotted.join_singleton "Car"
  obtain ⟨schema, hschema, hbuilt⟩ := exists_of_builderOf? hb
  rw [schemaOf_of_isBare rfl, hqualname, show (nearCar name first second).module.package = "" from
    lane_package] at hschema
  obtain rfl := Except.ok.inj hschema
  have hall : (Blueprint.ofSchema ⟨"m", "Car", "", []⟩).toOption.all (fun b =>
      (emission outEmitter.root false b emptyRun.store).toOption ==
          some (b.outputPath outEmitter.root, .generated) &&
        b.outputPath outEmitter.root == ⟨.absolute, ["out", "CarBuilder.py"]⟩) = true := by decide +kernel
  replace hbuilt : (Blueprint.ofSchema ⟨"m", "Car", "", []⟩).toOption = some b :=
    congrArg Except.toOption hbuilt
  rw [hbuilt, Option.all_some, Bool.and_eq_true, beq_iff_eq, beq_iff_eq] at hall
  refine ⟨?_, hall.2⟩
  generalize emission outEmitter.root false b emptyRun.store = result at hall
  rcases result with fault | pair
  · cases hall.1
  · rw [Option.some.inj hall.1]

/-- Then the directory stands. -/
theorem paved_of_nearCar {progress : Progress} {outcome : Outcome}
    (h : exec (processOne s outEmitter (nearCar name first second) ⟨[], []⟩) run =
      (.ok (outcome, progress), run')) (hstore : run.store = emptyRun.store)
    (hb : written? s (nearCar name first second) = some b) : Paved run'.store [] ["out"] := by
  obtain ⟨hemission, hpath⟩ := emission_nearCar (written?_eq_some_iff.mp hb).2
  have hrefs := Resolving.sound_nil s
  have hstatus : outcome.status = .emitted .generated := by
    rw [outcome_of_processOne hrefs hb (fun hmem => List.not_mem_nil hmem) h, hstore,
      show outEmitter.check = false from rfl, hemission]
    rfl
  have hjudged := judged_processOne hrefs h
  rw [hstore] at hjudged
  have hbytes := (hjudged.bytes hb sound_emptyRun.rooted (by rw [hpath]; decide)).1 hstatus
  obtain ⟨-, place, hplace, hfile⟩ := bytes_eq_ok_iff.mp hbytes
  have hreach : place = ["out"] ++ ["CarBuilder.py"] := by
    rw [eq_reach_of_placeOf hplace, hpath]
    exact reach_of_not_mem [] (by decide)
  have hdirectory : run'.store.node? ["out"] = some .directory := by
    refine (hjudged.sound sound_emptyRun).rooted.directory (List.cons_ne_nil "CarBuilder.py" []) ?_
    rw [← hreach, fileAt_eq_some_iff.mp hfile]
    exact Option.some_ne_none _
  exact Paved.cons hdirectory (paved_nil _ _)

/-- The classes have builders. -/
theorem exists_written_of_isBare (hd : d.isBare = true) (s : Surroundings) : ∃ b, written? s d = some b := by
  obtain ⟨b, hb⟩ := exists_builderOf?_of_isBare hd s
  exact ⟨b, written?_eq_some_iff.mpr ⟨kindOf_of_isBare hd _, hb⟩⟩

/-- They have names that those of classes are. -/
theorem plain_nearCar : Plain (nearCar name first second) :=
  have hchars : (nearCar name first second).qualifiedName.toList = ['m', '.', 'C', 'a', 'r'] :=
    show ("m" ++ "." ++ Dotted.join ["Car"]).toList = _ by decide
  by rw [Plain, hchars]; decide

/-- The file that is looked at and the temporary file are told apart, if both are refused. -/
theorem diagnostic_ne (name : String) :
    (refusal d (.store (.nameTooLong
        (⟨.absolute, ["out", builderName name ++ ".py"]⟩ : Path).render))).diagnostic ≠
      (refusal d' (.store (.nameTooLong
        (temporaryPath ⟨.absolute, ["out", builderName name ++ ".py"]⟩ 0).render))).diagnostic := by
  have hlast : (builderName name ++ ".py").toList = ((builderName name).toList ++ ['.', 'p']) ++ ['y'] := by
    rw [String.toList_append, List.append_assoc]
    rfl
  have hlast' : (temporaryName ⟨.absolute, ["out", builderName name ++ ".py"]⟩ 0).toList =
      (("." ++ (builderName name ++ ".py") ++ "." ++ temporaryMark 0).toList ++ ['.', 't', 'm']) ++ ['p'] := by
    rw [temporaryName, String.toList_append, List.append_assoc]
    rfl
  obtain ⟨front, hend⟩ := Path.exists_toList_render .absolute ["out"] hlast
  obtain ⟨front', hend'⟩ := Path.exists_toList_render .absolute ["out"] hlast'
  exact diagnostic_refusal_ne hend hend' ⟨by decide, by decide, by decide⟩
    ⟨by decide, by decide, by decide⟩ (by decide)

namespace Oversized

variable (h : Oversized name)

include h

/-- So has the other one. -/
theorem plain_farCar : Plain (farCar name first second) := by
  have hchars : (farCar name first second).qualifiedName.toList = 'm' :: '.' :: name.toList := by
    show ("m" ++ "." ++ Dotted.join [name]).toList = _
    rw [Dotted.join_singleton, String.toList_append]
    rfl
  rw [Plain, hchars]
  simp [h.plain]

/-- Its file is the one that is too long. -/
theorem outputPath_farCar (hb : builderOf? s (farCar name first second) = some b) :
    b.outputPath outEmitter.root = ⟨.absolute, ["out", builderName name ++ ".py"]⟩ :=
  outputPath_of_topLevel hb rfl lane_package h.not_point h.plain.1 outEmitter.root

/-- It does not fit. -/
theorem not_fits : ¬ Fits ⟨.absolute, ["out", builderName name ++ ".py"]⟩ := fun hfits =>
  absurd (hfits.names (builderName name ++ ".py") (by simp)) (not_le.mpr h.long)

/-- Where the directory stands, the file cannot be looked at. -/
theorem emission_farCar_of_paved (hb : builderOf? s (farCar name first second) = some b)
    (hpaved : Paved store [] ["out"]) :
    emission outEmitter.root false b store =
      .error (.store (.nameTooLong (⟨.absolute, ["out", builderName name ++ ".py"]⟩ : Path).render)) := by
  have hpath := h.outputPath_farCar hb
  have htarget := target_outputPath h.plain_farCar hb resolved_outEmitter
  rw [← hpath]
  exact emission_of_paved htarget.path (hpath ▸ h.not_fits)
    (.inr (resolved_outEmitter.look_of_paved (by decide) hpaved)) (by rw [hpath]; exact hpaved)

/-- Where it does not stand, the temporary file cannot be made. -/
theorem emission_farCar (hb : builderOf? s (farCar name first second) = some b) :
    emission outEmitter.root false b emptyRun.store =
      .error (.store (.nameTooLong
        (temporaryPath ⟨.absolute, ["out", builderName name ++ ".py"]⟩ 0).render)) := by
  have hpath := h.outputPath_farCar hb
  have htarget := target_outputPath h.plain_farCar hb resolved_outEmitter
  obtain ⟨n, hn, hfirst⟩ := exists_first emptyRun.store (b.outputPath outEmitter.root)
  obtain rfl : n = 0 := Nat.lt_one_iff.mp hn
  rw [← hpath]
  refine emission_of_not_paved htarget.path (hpath ▸ h.not_fits) (.inl (by decide))
    htarget.parts_ne_nil sound_emptyRun.rooted (hpath ▸ h.path) ?_ ?_ ?_ hfirst
  · rw [hpath]
    exact show Fits ⟨.absolute, ["out"]⟩ by decide
  · rintro place ⟨-, -, -, bytes, hfile⟩
    cases node?_emptyRun hfile
  · rw [hpath]
    intro hpaved
    cases hpaved ["out"] (by simp) (by simp)

/-- The files of the two classes are not the same. -/
theorem not_mem_filesOf (hb : builderOf? s (farCar name first second) = some b) :
    b.outputPath outEmitter.root ∉ filesOf s outEmitter [nearCar name first' second'] := by
  intro hmem
  obtain ⟨c, hc, b', hb', hfile⟩ := mem_filesOf.mp hmem
  obtain rfl := List.mem_singleton.mp hc
  rw [(emission_nearCar (written?_eq_some_iff.mp hb').2).2, h.outputPath_farCar hb] at hfile
  have hname : "CarBuilder.py" = builderName name ++ ".py" := by simpa using congrArg Path.parts hfile
  have hlong := h.long
  rw [← hname] at hlong
  exact absurd hlong (by decide)

/-- **A name that is too long is told otherwise after another class.** Only the decorators of this class are
different in the two rounds. -/
theorem exists_diagnostic_ne {tree alone : Tree}
    (hmarked : tree.marked = [nearCar name first second, farCar name first second])
    (halone : alone.marked = [farCar name first' second']) :
    ∃ result after result' after' o₁ o o',
      exec (processRound outEmitter tree false) emptyRun = (.ok result, after) ∧
      exec (processRound outEmitter alone false) emptyRun = (.ok result', after') ∧
      result.outcomes = [o₁, o] ∧ result'.outcomes = [o'] ∧ o.diagnostic ≠ o'.diagnostic := by
  obtain ⟨result, after, hround⟩ := exists_processRound_of_emptyRun tree
    (by rw [hmarked]; simpa using And.intro plain_nearCar h.plain_farCar)
    (by rw [hmarked]; exact List.forall_mem_cons.mpr ⟨rfl, List.forall_mem_singleton.mpr rfl⟩)
  obtain ⟨result', after', hround'⟩ := exists_processRound_of_emptyRun alone
    (by rw [halone]; simpa using h.plain_farCar)
    (by rw [halone]; exact List.forall_mem_singleton.mpr rfl)
  obtain ⟨run₁, hcontinues, hall⟩ := exec_processRound_ok hround
  obtain ⟨run₁', hcontinues', hall'⟩ := exec_processRound_ok hround'
  rw [hmarked] at hall
  rw [halone] at hall'
  obtain ⟨o₁, progress, run₂, others, hnear, hothers, houtcomes⟩ := exec_processAll_cons_iff.mp hall
  obtain ⟨o, progress₂, run₃, none, hfar, hnone, rfl⟩ := exec_processAll_cons_iff.mp hothers
  cases hnone
  obtain ⟨o', progress', run₂', none', hfar', hnone', houtcomes'⟩ := exec_processAll_cons_iff.mp hall'
  cases hnone'
  -- Each outcome is what comes of emitting the builder, before and after the directory was made.
  have hrefs := Resolving.sound_nil (.ofTree tree)
  obtain ⟨bNear, hbNear⟩ := exists_written_of_isBare (d := nearCar name first second) rfl (.ofTree tree)
  obtain ⟨b, hb⟩ := exists_written_of_isBare (d := farCar name first second) rfl (.ofTree tree)
  obtain ⟨b', hb'⟩ := exists_written_of_isBare (d := farCar name first' second') rfl (.ofTree alone)
  have hbuilder := (written?_eq_some_iff.mp hb).2
  have hbuilder' := (written?_eq_some_iff.mp hb').2
  have hpasses : Passes (.ofTree tree) outEmitter [nearCar name first second] ⟨[], []⟩ run₁ [o₁] progress
      run₂ := .cons hnear .nil
  have houtcome := outcome_of_processOne (hpasses.sound_refs hrefs) hb
    (hpasses.free (h.not_mem_filesOf hbuilder)) hfar
  have houtcome' := outcome_of_processOne (Resolving.sound_nil _) hb' (fun hmem => List.not_mem_nil hmem) hfar'
  rw [show outEmitter.check = false from rfl, h.emission_farCar_of_paved hbuilder
    (paved_of_nearCar hnear hcontinues.store_eq hbNear)] at houtcome
  rw [show outEmitter.check = false from rfl, hcontinues'.store_eq, h.emission_farCar hbuilder'] at houtcome'
  refine ⟨result, after, result', after', o₁, o, o', hround, hround', houtcomes, houtcomes', ?_⟩
  rw [houtcome, houtcome']
  exact diagnostic_ne name

end Oversized

end

/-- A name of so many letters. -/
def lettered (n : Nat) : String := String.ofList (List.replicate n 'L')

/-- Its builder has the suffix and nothing else added. -/
theorem builderName_lettered (n : Nat) : builderName (lettered n) = lettered n ++ builderSuffix := by
  have hlower : Text.isLower 'L' = false ∧ Text.isLower 'B' = false := by decide
  have hchars : (lettered n ++ builderSuffix).toList = List.replicate n 'L' ++ builderSuffix.toList := by
    rw [String.toList_append, lettered, String.toList_ofList]
  have hkept : builderName (lettered n) = String.ofList (lettered n ++ builderSuffix).toList := by
    rw [builderName, hchars]
    cases n with
    | zero => simp [builderSuffix, hlower]
    | succ n =>
      rw [List.replicate_succ, List.cons_append]
      simp only [hlower, Bool.false_eq_true, if_false]
  rw [hkept, String.ofList_toList]

/-- The name of its file is longer by ten characters. -/
theorem size_lettered (n : Nat) : Utf8.size (builderName (lettered n) ++ ".py").toList = n + 10 := by
  rw [builderName_lettered, String.toList_append, String.toList_append, lettered, String.toList_ofList,
    Path.size_append, Path.size_append, Path.size_replicate, show Utf8.width 'L' = 1 from rfl, Nat.mul_one]
  rfl

/-- Names with many letters are too long. -/
theorem oversized_lettered {n : Nat} (hlong : 245 < n) (hpath : n ≤ 4000) : Oversized (lettered n) := by
  have hletters : ∀ c : Char, c ≠ 'L' → c ∉ (lettered n).toList := by
    intro c hc hmem
    rw [lettered, String.toList_ofList] at hmem
    exact hc (List.eq_of_mem_replicate hmem)
  refine ⟨hletters _ (by decide), ⟨hletters _ (by decide), hletters _ (by decide)⟩, ?_, ?_⟩
  · rw [size_lettered, nameLimit]
    omega
  · have hfront : Utf8.size "/".toList + Utf8.size ("out" ++ "/").toList = 5 := by decide
    rw [Path.render_pair, String.toList_append, String.toList_append, Path.size_append, Path.size_append,
      size_lettered, pathLimit]
    omega

end FluentBuilder.Processing
