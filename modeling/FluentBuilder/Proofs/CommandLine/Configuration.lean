import FluentBuilder.Proofs.CommandLine.Exit
import FluentBuilder.Proofs.Config

/-!
# Configurations that cannot be used

Before any file is written, a command finds its configuration and the directory to write to (`prepared`).
A configuration that is wrong is reported: the command ends with status 2 and one line that says why. Not
every configuration that cannot be used is wrong in this sense. The faults that escape, and end the program
instead, are listed (`Escapes`), and there are no others (`reported_iff_not_escapes`): a file that cannot be
looked at, a directory in its place, bytes that are no text, values that cannot be made, a path in the home
of nobody, a number too long to be written, and a directory to write to that has no place.

**The route.** Each step has the faults that it lets through, and one equivalence that says so: reading the
document (`configOf_eq_error_iff`), loading the file (`loadConfig_eq_error_iff`), finding the directory to
write to (`outputRoot_eq_error_iff`). What a command is prepared by is one step after the other
(`prepared_eq_error_iff`), and the program either reports the fault of that or ends with it.
-/

namespace FluentBuilder.Processing

open Stateful Document Store

variable {s : Store} {p : Path} {run : Run} {fault : RunFault}

/-- The faults of a configuration as faults of a run. -/
def RunFault.ofSetting : SettingFault → RunFault
  | .config fault => .config fault
  | .document fault => .document fault
  | .unknownHome => .unknownHome

/-- Only faults of the configuration are faults of the configuration. -/
theorem RunFault.ofSetting_ne_config {fault : SettingFault} (h : ∀ reason, fault ≠ .config reason)
    (reason : ConfigFault) : RunFault.ofSetting fault ≠ .config reason := by
  cases fault with
  | config other => exact absurd rfl (h other)
  | document => simp [ofSetting]
  | unknownHome => simp [ofSetting]

/-- The texts of the paths in a document hold no surrogates. -/
structure TextualPaths (document : Value) : Prop where
  /-- Those of the roots. -/
  roots : ∀ values, Config.rootValues (document.entry? "source_roots") = .ok values →
    ∀ v ∈ values, Config.Textual v
  /-- That of the directory to write to. -/
  output : ∀ v, document.entry? "output_dir" = some v → Config.Textual v

/-- A configuration is read from a mapping. -/
theorem configOf_map (home : String) (base : Path) (entries : List (Value × Value)) :
    configOf home base (.map entries) =
      (Config.ofDocument home base (.map entries)).mapError .ofSetting := by
  have hfaults : (fun
      | .config fault => .config fault
      | .document fault => .document fault
      | .unknownHome => .unknownHome : SettingFault → RunFault) = .ofSetting := by
    funext fault
    cases fault <;> rfl
  cases entries <;> rw [← hfaults] <;> rfl

/-- What keeps a mapping from being read as a configuration. -/
theorem configOf_map_eq_error_iff {home : String} {base : Path} {entries : List (Value × Value)}
    (hfault : ∀ reason, fault ≠ .config reason) (htext : TextualPaths (.map entries)) :
    configOf home base (.map entries) = .error fault ↔
      ∃ reason, Config.Escapes (.map entries) reason ∧ fault = .ofSetting reason := by
  rw [configOf_map, Outcome.mapError_eq_error_iff]
  refine exists_congr fun reason => ⟨?_, ?_⟩
  · rintro ⟨hreason, rfl⟩
    have hne : ∀ other, reason ≠ .config other := by
      rintro other rfl
      exact hfault other rfl
    exact ⟨(Config.ofDocument_eq_error_iff hne htext.roots htext.output).mp hreason, rfl⟩
  · rintro ⟨hescapes, rfl⟩
    exact ⟨(Config.ofDocument_eq_error_iff hescapes.ne_config htext.roots htext.output).mpr hescapes, rfl⟩

/-- A document without settings is no mapping, or an empty one. -/
theorem textualPaths_of_entry?_eq_none {document : Value} (h : ∀ key, document.entry? key = none) :
    TextualPaths document := by
  refine ⟨fun values hvalues v hv codes hcodes => ?_, fun v hv => ?_⟩
  · rw [h] at hvalues
    obtain rfl := Except.ok.inj hvalues
    rw [List.mem_singleton.mp hv] at hcodes
    exact ⟨".", (Value.text.inj hcodes).symm⟩
  · cases (h _).symm.trans hv

/-- **What keeps the configuration in a document from being read**, other than that it is wrong. -/
theorem configOf_eq_error_iff {home : String} {base : Path} {document : Value}
    (hfault : ∀ reason, fault ≠ .config reason) (htext : TextualPaths document) :
    configOf home base document = .error fault ↔
      ∃ reason, Config.Escapes document reason ∧ fault = .ofSetting reason := by
  by_cases hmap : ∃ entries, document = .map entries
  · obtain ⟨entries, rfl⟩ := hmap
    exact configOf_map_eq_error_iff hfault htext
  -- A document that is no mapping has no settings.
  have hentries : ∀ key, document.entry? key = none := by
    intro key
    cases document <;> first | rfl | exact absurd ⟨_, rfl⟩ hmap
  refine iff_of_false ?_ fun ⟨_, hescapes, _⟩ => Config.not_escapes_of_entry?_eq_none hentries hescapes
  by_cases hnothing : document.isNegligible = true
  · have hempty : configOf home base document = configOf home base (.map []) := by
      rw [configOf, hnothing]
      rfl
    rw [hempty, configOf_map_eq_error_iff hfault (textualPaths_of_entry?_eq_none fun _ => rfl)]
    exact fun ⟨_, hescapes, _⟩ => Config.not_escapes_of_entry?_eq_none (fun _ => rfl) hescapes
  · have hwrong : configOf home base document = .error (.config .noMapping) := by
      rw [configOf, if_neg hnothing]
      cases document <;> first | rfl | exact absurd ⟨_, rfl⟩ hmap
    rw [hwrong]
    exact fun h => hfault _ (Except.error.inj h).symm

/-- The file at a path holds a text. -/
def HoldsText (s : Store) (p : Path) (text : String) : Prop :=
  ∃ bytes, s.bytes p = .ok bytes ∧ Running.textOf bytes = .ok text

/-- Why no configuration is loaded from a path, and the fault is none of the configuration. -/
inductive FileEscapes (s : Store) (p : Path) : RunFault → Prop where
  /-- The path cannot be looked at, since it or a name in it is too long. -/
  | long {fault : StoreFault} (look : s.look p = .error fault) : FileEscapes s p (.store fault)
  /-- A directory stands there. -/
  | directory (look : s.look p = .ok (some .directory)) : FileEscapes s p (.store (.isDirectory p.render))
  /-- The bytes of the file are no text. -/
  | undecodable {bytes : List UInt8} {fault : Utf8.Fault} (holds : s.bytes p = .ok bytes)
      (decode : Utf8.decode bytes = .error fault) : FileEscapes s p (.undecodable fault)
  /-- A value in the document means nothing. -/
  | document {text : String} {fault : DocumentFault} (holds : HoldsText s p text)
      (means : Value.ofText text = .error fault) (malformed : fault ≠ .malformed) :
      FileEscapes s p (.document fault)
  /-- A setting of the document cannot be read. -/
  | setting {text : String} {document : Value} {fault : SettingFault} (holds : HoldsText s p text)
      (means : Value.ofText text = .ok document) (escapes : Config.Escapes document fault) :
      FileEscapes s p (.ofSetting fault)

/-- A directory is no file. -/
theorem bytes_of_look_directory (h : s.look p = .ok (some .directory)) :
    s.bytes p = .error (.isDirectory p.render) := by
  unfold look at h
  split at h
  · cases h
  · next hnull =>
    split at h
    · next node hstatus =>
      obtain rfl := Option.some.inj (Except.ok.inj h)
      simp [Store.bytes, hnull, hstatus, bind, Except.bind, throw, throwThe, MonadExceptOf.throw]
    · cases h
    · cases h

/-- A path at which something stands has no character of code zero, and can be resolved. -/
theorem exists_resolve_of_look {node : Node} (h : s.look p = .ok (some node)) :
    ∃ place, s.resolve p = .ok place := by
  unfold look at h
  split at h
  · cases h
  · next hnull => exact ⟨_, if_neg hnull⟩

/-- Nothing is loaded where nothing stands. -/
theorem exec_loadConfig_of_none (h : run.store.look p = .ok none) :
    (exec (loadConfig p) run).1 = .error (.config (.noFile p)) := by
  rw [loadConfig, exec_bind, Running.exec_look, Store.occupied, h]
  rfl

/-- What stands at the path is read. -/
theorem exec_loadConfig_of_some {node : Node} (h : run.store.look p = .ok (some node)) :
    exec (loadConfig p) run = exec (do
      let text ← Running.readText p
      match Value.ofText text with
      | .error .malformed => throw (.config (.noDocument p))
      | .error fault => throw (.document fault)
      | .ok document =>
        let place ← Running.look (·.resolve p)
        Running.ofExcept (configOf (← get).store.home place.parent document)) run := by
  rw [loadConfig, exec_bind, Running.exec_look, Store.occupied, h]
  rfl

/-- A text that a file holds is read. -/
theorem exec_readText_of_holdsText {text : String} (h : HoldsText run.store p text) :
    exec (Running.readText p) run = (.ok text, run) := by
  obtain ⟨bytes, hbytes, htext⟩ := h
  rw [Running.readText, exec_bind, Running.exec_look, hbytes]
  simp only [Outcome.mapError_ok, Running.exec_ofExcept, htext]

/-- Bytes that are no text are not. -/
theorem exec_readText_of_undecodable {bytes : List UInt8} {fault : Utf8.Fault}
    (h : run.store.bytes p = .ok bytes) (hdecode : Utf8.decode bytes = .error fault) :
    exec (Running.readText p) run = (.error (.undecodable fault), run) := by
  rw [Running.readText, exec_bind, Running.exec_look, h]
  simp only [Outcome.mapError_ok, Running.exec_ofExcept, Running.textOf, hdecode, Except.map,
    Outcome.mapError_error]

/-- Nor is a directory. -/
theorem exec_readText_of_directory (h : run.store.look p = .ok (some .directory)) :
    exec (Running.readText p) run = (.error (.store (.isDirectory p.render)), run) := by
  rw [Running.readText, exec_bind, Running.exec_look, bytes_of_look_directory h]
  rfl

/-- The configuration of a document that a file holds, as seen from some directory. -/
theorem exec_loadConfig_of_holdsText {text : String} {document : Value} (h : HoldsText run.store p text)
    (hdocument : Value.ofText text = .ok document) :
    ∃ base, (exec (loadConfig p) run).1 = configOf run.store.home base document := by
  have hlook := look_of_bytes h.choose_spec.1
  obtain ⟨place, hplace⟩ := exists_resolve_of_look hlook
  refine ⟨place.parent, ?_⟩
  rw [exec_loadConfig_of_some hlook, exec_bind_of_ok (exec_readText_of_holdsText h), hdocument]
  simp only
  rw [exec_bind, Running.exec_look, hplace]
  rfl

/-- What keeps a configuration from being loaded is its fault. -/
theorem exec_loadConfig_of_escapes (h : FileEscapes run.store p fault)
    (htext : ∀ text document, HoldsText run.store p text → Value.ofText text = .ok document →
      TextualPaths document) : (exec (loadConfig p) run).1 = .error fault := by
  cases h with
  | long hlook =>
    rw [loadConfig, exec_bind, Running.exec_look, Store.occupied, hlook]
    rfl
  | directory hlook =>
    rw [exec_loadConfig_of_some hlook, exec_bind_of_error (exec_readText_of_directory hlook)]
  | undecodable hbytes hdecode =>
    rw [exec_loadConfig_of_some (look_of_bytes hbytes),
      exec_bind_of_error (exec_readText_of_undecodable hbytes hdecode)]
  | document hholds hdocument hmalformed =>
    rw [exec_loadConfig_of_some (look_of_bytes hholds.choose_spec.1),
      exec_bind_of_ok (exec_readText_of_holdsText hholds), hdocument]
    split
    · next h => exact absurd (Except.error.inj h) hmalformed
    · next h => rw [Except.error.inj h, exec_throw]
    · next h => cases h
  | setting hholds hdocument hescapes =>
    obtain ⟨base, hconfig⟩ := exec_loadConfig_of_holdsText hholds hdocument
    rw [hconfig, configOf_eq_error_iff (RunFault.ofSetting_ne_config hescapes.ne_config)
      (htext _ _ hholds hdocument)]
    exact ⟨_, hescapes, rfl⟩

/-- **What keeps a configuration from being loaded**, other than that it is wrong. -/
theorem loadConfig_eq_error_iff (hfault : ∀ reason, fault ≠ .config reason)
    (htext : ∀ text document, HoldsText run.store p text → Value.ofText text = .ok document →
      TextualPaths document) :
    (exec (loadConfig p) run).1 = .error fault ↔ FileEscapes run.store p fault := by
  refine ⟨fun h => ?_, fun h => exec_loadConfig_of_escapes h htext⟩
  -- Whatever keeps the configuration from being loaded has been seen to be the fault.
  have hunique : ∀ {reason}, FileEscapes run.store p reason → FileEscapes run.store p fault := by
    intro reason hescapes
    rw [← Except.error.inj ((exec_loadConfig_of_escapes hescapes htext).symm.trans h)]
    exact hescapes
  rcases hlook : run.store.look p with reason | _ | bytes | _
  · exact hunique (.long hlook)
  · rw [exec_loadConfig_of_none hlook] at h
    exact absurd (Except.error.inj h).symm (hfault _)
  · have hbytes := bytes_of_look hlook
    rcases hdecode : Utf8.decode bytes with reason | decoded
    · exact hunique (.undecodable hbytes hdecode)
    have hholds : HoldsText run.store p _ := ⟨bytes, hbytes, by rw [Running.textOf, hdecode]; rfl⟩
    rcases hdocument : Value.ofText _ with reason | document
    · by_cases hmalformed : reason = .malformed
      · subst hmalformed
        rw [exec_loadConfig_of_some hlook, exec_bind_of_ok (exec_readText_of_holdsText hholds), hdocument] at h
        exact absurd (Except.error.inj h).symm (hfault _)
      · exact hunique (.document hholds hdocument hmalformed)
    · obtain ⟨base, hconfig⟩ := exec_loadConfig_of_holdsText hholds hdocument
      rw [hconfig, configOf_eq_error_iff hfault (htext _ _ hholds hdocument)] at h
      obtain ⟨reason, hescapes, rfl⟩ := h
      exact .setting hholds hdocument hescapes
  · exact hunique (.directory hlook)

/-- None of these faults is one of the configuration. -/
theorem FileEscapes.ne_config (h : FileEscapes s p fault) (reason : ConfigFault) : fault ≠ .config reason := by
  cases h with
  | setting _ _ hescapes => exact RunFault.ofSetting_ne_config hescapes.ne_config reason
  | _ => simp

/-! ### The directory to write to -/

/-- The text that names the directory to write to among options. -/
def outputText (options : Options) : String :=
  Text.stripBlanks ((options.find? outputOption).getD []).toTextMarking

/-- If a text names the directory to write to, then no surrogate stands in it. -/
def TextualOutput (options : Options) : Prop :=
  ∀ codes, options.find? outputOption = some codes → ∃ text, codes = CodePoints.ofText text

/-- Among options the text is found that was put last under a name. -/
theorem find?_put_self (options : Options) (name : String) (text : CodePoints) :
    Options.find? (options.put (.ofText name) text) name = some text := by
  induction options with
  | nil => simp [Options.put, Options.find?]
  | cons entry rest ih =>
    rw [Options.put]
    split
    · simp [Options.find?]
    · next hne =>
      rw [Options.find?, List.find?_cons_of_neg (by simpa using hne)]
      exact ih

/-- A directory that is named for itself is named by its text. -/
theorem textualOutput_of_outputDir {config : Config} {dir : Path} (h : config.outputDir = some dir) :
    TextualOutput config.toOptions := by
  intro codes hcodes
  rw [Config.toOptions, h] at hcodes
  exact ⟨dir.render, Option.some.inj (hcodes.symm.trans (find?_put_self _ _ _))⟩

/-- The path that options name as the directory to write to. -/
def NamesOutput (options : Options) (path : Path) : Prop :=
  ∃ text, options.find? outputOption = some (.ofText text) ∧ Text.stripBlanks text ≠ "" ∧
    path = Path.ofText (Text.stripBlanks text)

/-- It is the path of the text. -/
theorem NamesOutput.text {options : Options} {path : Path} (h : NamesOutput options path) :
    outputText options ≠ "" ∧ path = Path.ofText (outputText options) := by
  obtain ⟨text, hfound, hne, rfl⟩ := h
  rw [outputText, hfound, Option.getD_some, CodePoints.toTextMarking_ofText]
  exact ⟨hne, rfl⟩

/-- A text names a path. -/
theorem namesOutput_of_text {options : Options} (htext : TextualOutput options)
    (hne : outputText options ≠ "") : NamesOutput options (Path.ofText (outputText options)) := by
  rcases hfound : options.find? outputOption with _ | codes
  · rw [outputText, hfound] at hne
    exact absurd rfl hne
  · obtain ⟨text, rfl⟩ := htext codes hfound
    rw [outputText, hfound, Option.getD_some, CodePoints.toTextMarking_ofText] at hne ⊢
    exact ⟨text, hfound, hne, rfl⟩

/-- Why no directory to write to is found, and the fault is none of the configuration. -/
inductive OutputEscapes (s : Store) (options : Options) : RunFault → Prop where
  /-- It is in the home of an account that is not known. -/
  | home {path : Path} (named : NamesOutput options path) (home : path.Homeless) :
      OutputEscapes s options .unknownHome
  /-- The character of code zero is in its path. -/
  | null {path target : Path} (named : NamesOutput options path)
      (found : expandHome s.home path = some target) (null : hasNull target = true) :
      OutputEscapes s options (.store (.nullCharacter "lstat"))
  /-- It cannot be looked at, since its path or a name in it is too long. -/
  | long {path target root : Path} {fault : StoreFault} (named : NamesOutput options path)
      (found : expandHome s.home path = some target) (resolve : s.resolve target = .ok root)
      (look : s.look root = .error fault) : OutputEscapes s options (.store fault)

/-- Without a text no directory is found. -/
theorem exec_outputRoot_of_empty {options : Options} (h : outputText options = "") :
    (exec (Running.outputRoot options) run).1 = .error (.config .noOutput) := by
  rw [Running.outputRoot, exec_ite, ← outputText, if_pos (by simpa using h)]
  rfl

/-- The path that a text names is resolved and looked at. -/
theorem exec_outputRoot_of_named {options : Options} (h : outputText options ≠ "") :
    exec (Running.outputRoot options) run =
      exec (match expandHome run.store.home (Path.ofText (outputText options)) with
        | none => throw .unknownHome
        | some path => do
          let root ← Running.look (·.resolve path)
          Running.checkOutput root
          return root) run := by
  rw [Running.outputRoot, exec_ite, ← outputText, if_neg (by simpa using h)]
  refine (exec_bind_of_ok (exec_get run)).trans ?_
  cases expandHome run.store.home (Path.ofText (outputText options)) <;> rfl

/-- What keeps the directory to write to from being found is its fault. -/
theorem exec_outputRoot_of_escapes {options : Options} (h : OutputEscapes run.store options fault) :
    (exec (Running.outputRoot options) run).1 = .error fault := by
  cases h with
  | home hnamed hhome =>
    obtain ⟨hne, rfl⟩ := hnamed.text
    rw [exec_outputRoot_of_named hne, expandHome_eq_none_iff.mpr hhome]
    rfl
  | null hnamed hfound hnull =>
    obtain ⟨hne, rfl⟩ := hnamed.text
    rw [exec_outputRoot_of_named hne, hfound]
    simp only
    rw [exec_bind, Running.exec_look, resolve, if_pos hnull]
    rfl
  | long hnamed hfound hresolve hlook =>
    obtain ⟨hne, rfl⟩ := hnamed.text
    rw [exec_outputRoot_of_named hne, hfound]
    simp only
    rw [exec_bind, Running.exec_look, hresolve]
    simp only [Outcome.mapError_ok]
    rw [exec_bind_of_error (Running.exec_checkOutput_of_error hlook)]

/-- **What keeps the directory to write to from being found**, other than that the configuration is wrong. -/
theorem outputRoot_eq_error_iff {options : Options} (hfault : ∀ reason, fault ≠ .config reason)
    (htext : TextualOutput options) :
    (exec (Running.outputRoot options) run).1 = .error fault ↔ OutputEscapes run.store options fault := by
  refine ⟨fun h => ?_, exec_outputRoot_of_escapes⟩
  by_cases hne : outputText options = ""
  · rw [exec_outputRoot_of_empty hne] at h
    exact absurd (Except.error.inj h).symm (hfault _)
  have hnamed := namesOutput_of_text htext hne
  -- Whatever keeps the directory from being found has been seen to be the fault.
  have hunique : ∀ {reason}, OutputEscapes run.store options reason →
      OutputEscapes run.store options fault := by
    intro reason hescapes
    rw [← Except.error.inj ((exec_outputRoot_of_escapes hescapes).symm.trans h)]
    exact hescapes
  rcases hfound : expandHome run.store.home (Path.ofText (outputText options)) with _ | path
  · exact hunique (.home hnamed (expandHome_eq_none_iff.mp hfound))
  by_cases hnull : hasNull path = true
  · exact hunique (.null hnamed hfound hnull)
  rcases hresolve : run.store.resolve path with reason | root
  · rw [resolve, if_neg hnull] at hresolve
    cases hresolve
  rw [exec_outputRoot_of_named hne, hfound] at h
  simp only at h
  rw [exec_bind, Running.exec_look, hresolve] at h
  simp only [Outcome.mapError_ok] at h
  rcases Running.fit_or_blocked_or_error run.store root with hfit | hblocked | ⟨reason, hlook⟩
  · rw [exec_bind_of_ok (Running.exec_checkOutput_of_fit hfit), exec_pure] at h
    cases h
  · rw [exec_bind_of_error (Running.exec_checkOutput_of_blocked hblocked)] at h
    exact absurd (Except.error.inj h).symm (hfault _)
  · exact hunique (.long hnamed hfound hresolve hlook)

/-- None of these faults is one of the configuration. -/
theorem OutputEscapes.ne_config {options : Options} (h : OutputEscapes s options fault)
    (reason : ConfigFault) : fault ≠ .config reason := by
  cases h <;> simp

end FluentBuilder.Processing

namespace FluentBuilder.CommandLine

open Stateful Document Processing Store

variable {i : Invocation} {run : Run} {fault : RunFault} {p : Path} {s : Store}

/-! ### The command -/

/-- The file that the configuration is loaded from: the one that is named, or else the usual one if a file
stands there. -/
inductive ConfigFile (i : Invocation) (s : Store) : Path → Prop where
  /-- It is named. -/
  | named {name : String} (named : i.config.filter (!·.isEmpty) = some name) :
      ConfigFile i s (Path.ofText name)
  /-- It is the usual one. -/
  | usual (unnamed : i.config.filter (!·.isEmpty) = none)
      (found : s.isFile (Path.ofText defaultConfigFile) = .ok true) :
      ConfigFile i s (Path.ofText defaultConfigFile)

/-- The usual path is that of a file in the current directory. -/
theorem ofText_defaultConfigFile : Path.ofText defaultConfigFile = ⟨.relative, ["buildergen.yaml"]⟩ := by
  decide

/-- That is where it leads. -/
theorem placeOf_usual (s : Store) :
    s.placeOf (Path.ofText defaultConfigFile) = .ok (s.current ++ ["buildergen.yaml"]) := by
  rw [ofText_defaultConfigFile, placeOf, if_neg (by decide), walk, if_neg (by decide),
    if_neg (by decide)]
  rfl

/-- It can always be told whether a file stands there. -/
theorem exists_isFile_usual (s : Store) : ∃ found, s.isFile (Path.ofText defaultConfigFile) = .ok found := by
  rcases hlook : s.look (Path.ofText defaultConfigFile) with reason | node
  · exact absurd hlook (look_ne_error (placeOf_usual s) reason)
  · exact ⟨_, by rw [isFile, hlook]; rfl⟩

/-- There is one such file at most. -/
theorem ConfigFile.unique {p' : Path} (h : ConfigFile i s p) (h' : ConfigFile i s p') : p = p' := by
  cases h with
  | named hname =>
    cases h' with
    | named hname' => rw [Option.some.inj (hname.symm.trans hname')]
    | usual hnone => cases hname.symm.trans hnone
  | usual hnone =>
    cases h' with
    | named hname' => cases hname'.symm.trans hnone
    | usual => rfl

/-- The configuration is loaded from that file, or else nothing is said. -/
theorem exec_chosenConfig (i : Invocation) (run : Run) :
    (∃ p, ConfigFile i run.store p ∧ (exec (chosenConfig i) run).1 =
      (exec (loadConfig p) run).1.map (·.withOverrides i.roots i.out)) ∨
    (∀ p, ¬ ConfigFile i run.store p) ∧
      (exec (chosenConfig i) run).1 = .ok (Config.default.withOverrides i.roots i.out) := by
  have hreplaced : ∀ p : Path, (exec (do
      let config ← loadConfig p
      return config.withOverrides i.roots i.out) run).1 =
        (exec (loadConfig p) run).1.map (·.withOverrides i.roots i.out) := by
    intro p
    rw [exec_bind]
    rcases exec (loadConfig p) run with ⟨fault | config, run'⟩ <;> rfl
  rw [chosenConfig]
  rcases hname : i.config.filter (!·.isEmpty) with _ | name
  · obtain ⟨found, hfound⟩ := exists_isFile_usual run.store
    have hlook : exec (Running.look (·.isFile (Path.ofText defaultConfigFile))) run = (.ok found, run) := by
      rw [Running.exec_look, hfound]
      rfl
    simp only [hname]
    rw [exec_bind_of_ok hlook]
    cases found with
    | true => exact .inl ⟨_, .usual hname hfound, hreplaced _⟩
    | false =>
      refine .inr ⟨fun p hp => ?_, rfl⟩
      cases hp with
      | named hnamed => cases hname.symm.trans hnamed
      | usual _ h => cases hfound.symm.trans h
  · simp only [hname]
    exact .inl ⟨_, .named hname, hreplaced _⟩

/-- What is done before any round: the configuration is found, and the directory to write to. -/
def prepared (i : Invocation) : Running (Config × Path) := do
  let config ← chosenConfig i
  let root ← Running.outputRoot config.toOptions
  return (config, root)

/-- Why the command is not prepared, and the fault is none of the configuration. -/
inductive Escapes (i : Invocation) (run : Run) : RunFault → Prop where
  /-- The configuration is not loaded. -/
  | file {p : Path} {fault : RunFault} (file : ConfigFile i run.store p)
      (escapes : FileEscapes run.store p fault) : Escapes i run fault
  /-- The directory to write to is not found. -/
  | output {config : Config} {fault : RunFault} (chosen : (exec (chosenConfig i) run).1 = .ok config)
      (escapes : OutputEscapes run.store config.toOptions fault) : Escapes i run fault

/-- No surrogates stand in the paths that a run is told. -/
structure Textual (i : Invocation) (run : Run) : Prop where
  /-- In those of the configuration file. -/
  paths : ∀ p, ConfigFile i run.store p → ∀ text document, HoldsText run.store p text →
    Value.ofText text = .ok document → TextualPaths document
  /-- In that of the directory to write to. -/
  output : ∀ config, (exec (chosenConfig i) run).1 = .ok config → TextualOutput config.toOptions

/-- The directory that the arguments name is named by a text. -/
theorem textualOutput_of_out {dir : String} {config : Config} (hout : i.out = some dir) (hne : dir ≠ "")
    (h : (exec (chosenConfig i) run).1 = .ok config) : TextualOutput config.toOptions := by
  have hoverrides : ∀ c : Config, TextualOutput (c.withOverrides i.roots i.out).toOptions := fun c =>
    have hdir : (c.withOverrides i.roots i.out).outputDir = some (Path.ofText dir) := by
      simp [Config.withOverrides, hout, hne]
    textualOutput_of_outputDir hdir
  rcases exec_chosenConfig i run with ⟨p, -, hchosen⟩ | ⟨-, hchosen⟩
  · rw [hchosen] at h
    rcases hload : (exec (loadConfig p) run).1 with fault | c
    · rw [hload] at h
      cases h
    · rw [hload] at h
      obtain rfl := Except.ok.inj h
      exact hoverrides c
  · obtain rfl := Except.ok.inj (hchosen.symm.trans h)
    exact hoverrides _

/-- What keeps the configuration from being found. -/
theorem chosenConfig_eq_error_iff (hfault : ∀ reason, fault ≠ .config reason) (htext : Textual i run) :
    (exec (chosenConfig i) run).1 = .error fault ↔
      ∃ p, ConfigFile i run.store p ∧ FileEscapes run.store p fault := by
  rcases exec_chosenConfig i run with ⟨p, hp, hchosen⟩ | ⟨hnone, hchosen⟩
  · have hload : (exec (loadConfig p) run).1 = .error fault ↔ FileEscapes run.store p fault :=
      loadConfig_eq_error_iff hfault (htext.paths p hp)
    have hchosen' : (exec (chosenConfig i) run).1 = .error fault ↔
        (exec (loadConfig p) run).1 = .error fault := by
      rw [hchosen]
      rcases (exec (loadConfig p) run).1 with fault' | config <;> simp [Except.map]
    rw [hchosen', hload]
    exact ⟨fun h => ⟨p, hp, h⟩, fun ⟨p', hp', h⟩ => hp.unique hp' ▸ h⟩
  · rw [hchosen]
    exact iff_of_false (by simp) fun ⟨p, hp, _⟩ => hnone p hp

/-- Preparing a command only looks. -/
theorem looks_prepared (i : Invocation) : Looks (prepared i) :=
  looks_bind (looks_chosenConfig i) fun config =>
    looks_bind (Running.exec_outputRoot_snd config.toOptions) fun _ _ => rfl

/-- A command is prepared when its configuration is found, and then its directory to write to. -/
theorem exec_prepared_of_chosen {config : Config} (h : (exec (chosenConfig i) run).1 = .ok config) :
    (exec (prepared i) run).1 = (exec (Running.outputRoot config.toOptions) run).1.map (config, ·) := by
  have hchosen : exec (chosenConfig i) run = (.ok config, run) := Prod.ext h (looks_chosenConfig i run)
  rw [prepared, exec_bind_of_ok hchosen, exec_bind]
  rcases exec (Running.outputRoot config.toOptions) run with ⟨fault | root, run'⟩ <;> rfl

/-- It is not when its configuration is not found. -/
theorem exec_prepared_of_not_chosen (h : (exec (chosenConfig i) run).1 = .error fault) :
    (exec (prepared i) run).1 = .error fault := by
  have hchosen : exec (chosenConfig i) run = (.error fault, run) := Prod.ext h (looks_chosenConfig i run)
  rw [prepared, exec_bind_of_error hchosen]

/-- **What keeps a command from being prepared**, other than that its configuration is wrong. -/
theorem prepared_eq_error_iff (hfault : ∀ reason, fault ≠ .config reason) (htext : Textual i run) :
    (exec (prepared i) run).1 = .error fault ↔ Escapes i run fault := by
  have hchosen_iff := chosenConfig_eq_error_iff hfault htext
  rcases hchosen : (exec (chosenConfig i) run).1 with fault' | config
  · rw [hchosen, Except.error.injEq] at hchosen_iff
    rw [exec_prepared_of_not_chosen hchosen, Except.error.injEq, hchosen_iff]
    constructor
    · rintro ⟨p, hp, hescapes⟩
      exact .file hp hescapes
    · rintro (⟨hp, hescapes⟩ | ⟨h, -⟩)
      · exact ⟨_, hp, hescapes⟩
      · cases hchosen.symm.trans h
  · have houtput : (exec (Running.outputRoot config.toOptions) run).1 = .error fault ↔
        OutputEscapes run.store config.toOptions fault :=
      outputRoot_eq_error_iff hfault (htext.output config hchosen)
    have hroot : (exec (prepared i) run).1 = .error fault ↔
        (exec (Running.outputRoot config.toOptions) run).1 = .error fault := by
      rw [exec_prepared_of_chosen hchosen]
      rcases (exec (Running.outputRoot config.toOptions) run).1 with fault' | root <;> simp [Except.map]
    rw [hroot, houtput]
    constructor
    · exact .output hchosen
    · rintro (⟨hp, hescapes⟩ | ⟨h, hescapes⟩)
      · cases hchosen.symm.trans (hchosen_iff.mpr ⟨_, hp, hescapes⟩)
      · obtain rfl := Except.ok.inj (hchosen.symm.trans h)
        exact hescapes

/-- None of these faults is one of the configuration. -/
theorem Escapes.ne_config (h : Escapes i run fault) (reason : ConfigFault) : fault ≠ .config reason := by
  cases h with
  | file _ hescapes => exact hescapes.ne_config reason
  | output _ hescapes => exact hescapes.ne_config reason

/-- A command that is not prepared comes to the fault of that. -/
theorem exec_commanded_of_not_prepared (h : (exec (prepared i) run).1 = .error fault) :
    exec (commanded i) run = (.error fault, run) := by
  rcases hchosen : (exec (chosenConfig i) run).1 with fault' | config
  · obtain rfl := Except.error.inj ((exec_prepared_of_not_chosen hchosen).symm.trans h)
    exact exec_bind_of_error (Prod.ext hchosen (looks_chosenConfig i run))
  · rw [exec_prepared_of_chosen hchosen] at h
    rcases hroot : (exec (Running.outputRoot config.toOptions) run).1 with fault' | root
    · rw [hroot] at h
      obtain rfl := Except.error.inj h
      have houtput : exec (Running.outputRoot config.toOptions) run = (.error fault', run) :=
        Prod.ext hroot (Running.exec_outputRoot_snd config.toOptions run)
      rw [exec_commanded_of_chosen hchosen, generate, exec_bind_of_error houtput]
    · rw [hroot] at h
      cases h

/-- A fault of the configuration is reported. -/
theorem exec_execute_of_refused {reason : ConfigFault}
    (h : exec (commanded i) run = (.error (.config reason), run)) :
    exec (execute i) run = (.ok (refusedReport i run reason), run) := by
  have hattempt : exec (attempt (commanded i)) run = (.ok (.error (.config reason)), run) := by
    rw [Running.exec_attempt, h]
  change exec (attempt (commanded i) >>= _) run = _
  rw [exec_bind_of_ok hattempt, exec_bind_of_ok (exec_get run)]
  rfl

/-- Every other one ends the program. -/
theorem exec_execute_of_escaped (hfault : ∀ reason, fault ≠ .config reason)
    (h : exec (commanded i) run = (.error fault, run)) : exec (execute i) run = (.error fault, run) := by
  have hattempt : exec (attempt (commanded i)) run = (.ok (.error fault), run) := by
    rw [Running.exec_attempt, h]
  change exec (attempt (commanded i) >>= _) run = _
  rw [exec_bind_of_ok hattempt, exec_bind_of_ok (exec_get run)]
  cases fault with
  | config reason => exact absurd rfl (hfault reason)
  | _ => rfl

/-- **Every configuration that cannot be used is reported as such**, unless one of the listed faults escapes.
Preparing a command changes nothing. It succeeds or fails with a fault of the configuration iff none of the
others escapes, and these end the program. A fault of the configuration is reported: the exit is 2, nothing
is on the standard output, and the error output has the line with the wording of the fault. -/
theorem reported_iff_not_escapes (i : Invocation) (run : Run) (htext : Textual i run) :
    (exec (prepared i) run).2 = run ∧
    (((∃ found, (exec (prepared i) run).1 = .ok found) ∨
      ∃ reason, (exec (prepared i) run).1 = .error (.config reason)) ↔ ∀ fault, ¬ Escapes i run fault) ∧
    ∀ arguments, Invocation.ofArguments arguments = .ok i →
      (∀ fault, Escapes i run fault → exec (CommandLine.run arguments) run = (.error fault, run)) ∧
      ∀ reason, (exec (prepared i) run).1 = .error (.config reason) →
        ∃ report, exec (CommandLine.run arguments) run = (.ok report, run) ∧ report.exit = 2 ∧
          report.output = "" ∧ Prints report.errors ("error: " ++ reason.message) := by
  have hexecute : ∀ arguments, Invocation.ofArguments arguments = .ok i →
      exec (CommandLine.run arguments) run = exec (execute i) run := by
    intro arguments harguments
    rw [CommandLine.run, harguments]
  refine ⟨looks_prepared i run, ⟨?_, fun hnone => ?_⟩, fun arguments harguments => ⟨fun fault hescapes => ?_,
    fun reason hreason => ?_⟩⟩
  · intro hreported fault hescapes
    have hfault := (prepared_eq_error_iff hescapes.ne_config htext).mpr hescapes
    rcases hreported with ⟨found, h⟩ | ⟨reason, h⟩
    · cases hfault.symm.trans h
    · exact hescapes.ne_config reason (Except.error.inj (hfault.symm.trans h))
  · rcases hprepared : (exec (prepared i) run).1 with fault | found
    · by_cases hconfig : ∃ reason, fault = .config reason
      · obtain ⟨reason, rfl⟩ := hconfig
        exact .inr ⟨reason, rfl⟩
      · exact absurd ((prepared_eq_error_iff (fun reason h => hconfig ⟨reason, h⟩) htext).mp hprepared)
          (hnone fault)
    · exact .inl ⟨found, rfl⟩
  · have hprepared := (prepared_eq_error_iff hescapes.ne_config htext).mpr hescapes
    rw [hexecute arguments harguments]
    exact exec_execute_of_escaped hescapes.ne_config (exec_commanded_of_not_prepared hprepared)
  · refine ⟨refusedReport i run reason, ?_, rfl, rfl, ?_⟩
    · rw [hexecute arguments harguments]
      exact exec_execute_of_refused (exec_commanded_of_not_prepared hreason)
    · exact prints_textOfLines (List.mem_append_right _ (List.mem_singleton_self _))

/-! ### Two files -/

/-- The current directory with a configuration file of these bytes. -/
def configured (bytes : List UInt8) : Run :=
  ⟨⟨[(["buildergen.yaml"], .file bytes)], [], "/root"⟩, [], []⟩

/-- The builders of the current directory are asked for. -/
def asking : List String := ["generate", "--out", "out"]

/-- What that means. -/
theorem ofArguments_asking : Invocation.ofArguments asking = .ok ⟨[], some "out", none, false, 0⟩ :=
  FluentBuilder.Outcome.toOption_eq_some_iff.mp (by decide)

/-- The configuration is loaded from the usual file then. -/
theorem configFile_asking {bytes : List UInt8}
    (h : ConfigFile ⟨[], some "out", none, false, 0⟩ (configured bytes).store p) :
    p = Path.ofText defaultConfigFile := by
  cases h with
  | named hname => cases hname
  | usual => rfl

/-- It holds these bytes. -/
theorem bytes_configured (bytes : List UInt8) :
    (configured bytes).store.bytes (Path.ofText defaultConfigFile) = .ok bytes := by
  refine bytes_eq_ok_iff.mpr ⟨?_, _, placeOf_usual _, rfl⟩
  rw [ofText_defaultConfigFile]
  decide

/-- So that is the file. -/
theorem configFile_configured (bytes : List UInt8) :
    ConfigFile ⟨[], some "out", none, false, 0⟩ (configured bytes).store (Path.ofText defaultConfigFile) := by
  refine .usual rfl ?_
  rw [isFile, look_of_bytes (bytes_configured bytes)]
  rfl

/-- A configuration file with bytes that are no text. -/
def mangled : Run := configured [0xff]

/-- These bytes are no text. -/
theorem exists_decode_mangled : ∃ fault, Utf8.decode [0xff] = .error fault := by
  rcases h : Utf8.decode [0xff] with fault | text
  · exact ⟨fault, rfl⟩
  · have hnone : (Utf8.decode [0xff]).toOption = none := by decide
    rw [h] at hnone
    cases hnone

/-- What is asked for has no surrogates in its paths, if the configuration file has none. -/
theorem textual_configured {bytes : List UInt8}
    (h : ∀ text document, Running.textOf bytes = .ok text → Value.ofText text = .ok document →
      TextualPaths document) : Textual ⟨[], some "out", none, false, 0⟩ (configured bytes) where
  paths := by
    rintro p hp text document ⟨bytes', hbytes, htext⟩ hdocument
    rw [configFile_asking hp] at hbytes
    obtain rfl := Except.ok.inj ((bytes_configured bytes).symm.trans hbytes)
    exact h text document htext hdocument
  output := fun config hconfig => textualOutput_of_out rfl (by decide) hconfig

/-- No document is in that file. -/
theorem textual_mangled : Textual ⟨[], some "out", none, false, 0⟩ mangled := by
  refine textual_configured fun text document htext _ => ?_
  obtain ⟨fault, hdecode⟩ := exists_decode_mangled
  rw [Running.textOf, hdecode] at htext
  cases htext

/-- Its bytes are the fault of the command. -/
theorem exists_escapes_mangled :
    ∃ fault, Escapes ⟨[], some "out", none, false, 0⟩ mangled (.undecodable fault) := by
  obtain ⟨fault, hdecode⟩ := exists_decode_mangled
  exact ⟨fault, .file (configFile_configured _) (.undecodable (bytes_configured _) hdecode)⟩

/-- **It is not reported**: the fault is none of the configuration, and ends the program. -/
theorem undecodable_of_mangled :
    ∃ fault, (exec (prepared ⟨[], some "out", none, false, 0⟩) mangled).1 = .error (.undecodable fault) ∧
      (∀ reason, RunFault.undecodable fault ≠ .config reason) ∧
      exec (CommandLine.run asking) mangled = (.error (.undecodable fault), mangled) := by
  obtain ⟨fault, hescapes⟩ := exists_escapes_mangled
  have hprepared := (prepared_eq_error_iff hescapes.ne_config textual_mangled).mpr hescapes
  refine ⟨fault, hprepared, hescapes.ne_config, ?_⟩
  rw [CommandLine.run, ofArguments_asking]
  exact exec_execute_of_escaped hescapes.ne_config (exec_commanded_of_not_prepared hprepared)

/-- A configuration file in which the roots are a number. -/
def misconfigured : Run := configured (Utf8.encode "source_roots: 5\n")

/-- The one is reported, and the other one ends the program. -/
theorem reported_of_misconfigured :
    (∃ reason report, (exec (prepared ⟨[], some "out", none, false, 0⟩) misconfigured).1 =
        .error (.config reason) ∧
      exec (CommandLine.run asking) misconfigured = (.ok report, misconfigured) ∧
      report.exit = 2 ∧ report.output = "" ∧ Prints report.errors ("error: " ++ reason.message)) ∧
    ∃ fault, exec (CommandLine.run asking) mangled = (.error (.undecodable fault), mangled) := by
  have hpaths : (Value.ofText "source_roots: 5\n").toOption.all (fun document =>
      (document.entry? "output_dir").isNone &&
        (Config.rootValues (document.entry? "source_roots")).toOption.isNone) = true := by decide +kernel
  have htext : Textual ⟨[], some "out", none, false, 0⟩ misconfigured := by
    refine textual_configured fun text document htext hdocument => ?_
    obtain rfl := Except.ok.inj ((Running.textOf_encode (by decide)).symm.trans htext)
    rw [hdocument] at hpaths
    obtain ⟨hout, hroots⟩ := Bool.and_eq_true_iff.mp hpaths
    refine ⟨fun values hvalues => ?_, fun v hv => ?_⟩
    · rw [hvalues] at hroots
      cases hroots
    · rw [hv] at hout
      cases hout
  have hrefused : (exec (prepared ⟨[], some "out", none, false, 0⟩) misconfigured).1.toOption.isNone = true ∧
      (exec (CommandLine.run asking) misconfigured).1.toOption.isSome = true := by decide +kernel
  obtain ⟨-, hiff, hreported⟩ := reported_iff_not_escapes ⟨[], some "out", none, false, 0⟩ misconfigured htext
  obtain ⟨-, -, hescaped⟩ := reported_iff_not_escapes ⟨[], some "out", none, false, 0⟩ mangled textual_mangled
  obtain ⟨fault, hescapes⟩ := exists_escapes_mangled
  have hnone : ∀ fault, ¬ Escapes ⟨[], some "out", none, false, 0⟩ misconfigured fault := by
    intro fault hfault
    have hended := (hreported asking ofArguments_asking).1 fault hfault
    rw [hended] at hrefused
    cases hrefused.2
  rcases hiff.mpr hnone with ⟨found, hfound⟩ | ⟨reason, hreason⟩
  · rw [hfound] at hrefused
    cases hrefused.1
  · obtain ⟨report, hreport⟩ := (hreported asking ofArguments_asking).2 reason hreason
    exact ⟨⟨reason, report, hreason, hreport⟩, fault, (hescaped asking ofArguments_asking).1 _ hescapes⟩

end FluentBuilder.CommandLine
