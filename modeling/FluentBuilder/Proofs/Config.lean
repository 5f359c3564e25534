import FluentBuilder.Config
import FluentBuilder.Proofs.Outcome
import FluentBuilder.Proofs.Text.CodePoints

/-!
# What keeps a document from being read

A document holds a configuration, or one that is wrong, unless one of two other things is wrong with it: a
path in it begins at the home of an account that is not known, or there is a number among its options that
is too long to be written (`Config.ofDocument_eq_error_iff`). The settings are read in order, so that the
first one that is wrong decides: the roots, then the directory to write to, then the options.

Paths are texts. In a document a text can also hold surrogates, which no name of a file has; what is said
about paths here is said about texts without them (`Config.Textual`).
-/

namespace FluentBuilder

open Document

/-! ### Steps that fail -/

namespace Outcome

variable {ε α β : Type}

/-- The fault of two steps is that of the first one, or else that of the second one. -/
theorem bind_eq_error_iff {x : Except ε α} {f : α → Except ε β} {e : ε} :
    (x >>= f) = .error e ↔ x = .error e ∨ ∃ a, x = .ok a ∧ f a = .error e := by
  cases x with
  | error e' => simp [bind, Except.bind]
  | ok a => simp [bind, Except.bind]

/-- A fault under another name was one before. -/
theorem mapError_eq_error_iff {ε' : Type} {f : ε → ε'} {x : Except ε α} {e : ε'} :
    x.mapError f = .error e ↔ ∃ e', x = .error e' ∧ f e' = e := by
  cases x with
  | error e' => simp [mapError_error]
  | ok a => simp [mapError_ok]

/-- The fault of a loop is that of the first item that has one. -/
theorem mapM_eq_error_iff {f : α → Except ε β} {xs : List α} {e : ε} :
    xs.mapM f = .error e ↔ ∃ front x back, xs = front ++ x :: back ∧
      (∀ y ∈ front, ∃ b, f y = .ok b) ∧ f x = .error e := by
  induction xs with
  | nil => simp [pure, Except.pure]
  | cons x xs ih =>
    rw [List.mapM_cons, bind_eq_error_iff]
    constructor
    · rintro (hx | ⟨b, hx, h⟩)
      · exact ⟨[], x, xs, rfl, by simp, hx⟩
      · rcases bind_eq_error_iff.mp h with hxs | ⟨bs, -, h⟩
        · obtain ⟨front, y, back, rfl, hfront, hy⟩ := ih.mp hxs
          exact ⟨x :: front, y, back, rfl, List.forall_mem_cons.mpr ⟨⟨b, hx⟩, hfront⟩, hy⟩
        · cases h
    · rintro ⟨front, y, back, heq, hfront, hy⟩
      cases front with
      | nil =>
        obtain ⟨rfl, rfl⟩ := List.cons.inj heq
        exact .inl hy
      | cons first front =>
        obtain ⟨rfl, rfl⟩ := List.cons.inj heq
        obtain ⟨⟨b, hb⟩, hfront⟩ := List.forall_mem_cons.mp hfront
        refine .inr ⟨b, hb, bind_eq_error_iff.mpr (.inl (ih.mpr ⟨front, y, back, rfl, hfront, hy⟩))⟩

end Outcome

/-! ### Homes -/

/-- The path begins at the home of an account that is not known. -/
def Path.Homeless (p : Path) : Prop :=
  p.root = .relative ∧ ∃ account rest, account ≠ "" ∧ p.parts = ("~" ++ account) :: rest ∧
    Store.systemHomes.find? account = none

/-- Only from there no path is found. -/
theorem Store.expandHome_eq_none_iff {home : String} {p : Path} :
    Store.expandHome home p = none ↔ p.Homeless := by
  rw [expandHome, Path.Homeless]
  split
  · next first rest hroot hparts =>
    rw [hroot, hparts, and_iff_right rfl]
    split
    · next account hfirst =>
      -- The first name is a tilde with the name of an account behind it.
      have hname : first = "~" ++ String.ofList account := by
        rw [← String.toList_inj, hfirst]
        simp
      simp only [hname, Option.map_eq_none_iff, List.cons.injEq]
      by_cases hempty : account.isEmpty = true
      · rw [if_pos hempty]
        obtain rfl := List.isEmpty_iff.mp hempty
        constructor
        · intro h
          cases h
        · rintro ⟨account, _, hne, ⟨haccount, -⟩, -⟩
          exact absurd (String.append_right_inj _ |>.mp haccount).symm hne
      · rw [if_neg hempty]
        constructor
        · intro h
          exact ⟨String.ofList account, rest, by simpa using hempty, ⟨rfl, rfl⟩, h⟩
        · rintro ⟨account', _, -, ⟨haccount, -⟩, h⟩
          rwa [(String.append_right_inj _).mp haccount]
    · next hother =>
      constructor
      · intro h
        cases h
      · rintro ⟨account, _, -, heq, -⟩
        refine absurd ?_ (hother account.toList)
        rw [(List.cons.inj heq).1, String.toList_append]
        rfl
  · next hother =>
    constructor
    · intro h
      cases h
    · rintro ⟨hroot, account, rest, -, hparts, -⟩
      exact absurd hparts (hother _ _ hroot)

namespace Config

/-! ### The settings of a document -/

/-- The value names a path. -/
def NamesPath (v : Value) : Prop :=
  ∃ text : String, v = .text (.ofText text) ∧ Text.isAllBlank text = false ∧
    ¬ (Path.ofText (Text.stripBlanks text)).Homeless

/-- The value names a path from the home of an account that is not known. -/
def NamesNoHome (v : Value) : Prop :=
  ∃ text : String, v = .text (.ofText text) ∧ Text.isAllBlank text = false ∧
    (Path.ofText (Text.stripBlanks text)).Homeless

/-- These are different values. -/
theorem NamesPath.not_namesNoHome {v : Value} (h : NamesPath v) : ¬ NamesNoHome v := by
  obtain ⟨text, hv, -, hnot⟩ := h
  rintro ⟨text', hv', -, hhome⟩
  obtain rfl := CodePoints.ofText_inj.mp (Value.text.inj (hv.symm.trans hv'))
  exact hnot hhome

/-- If the value is a text, then no surrogate stands in it. -/
def Textual (v : Value) : Prop := ∀ codes, v = .text codes → ∃ text, codes = CodePoints.ofText text

variable {home : String} {base : Path} {v document : Value} {fault : SettingFault}

/-- **What comes of reading a path**: the path, or a fault of the configuration, unless it is in the home of an
account that is not known. -/
theorem readPath_cases (home : String) (base : Path) (key : String) (htext : Textual v) :
    (NamesPath v ∧ ∃ path, readPath home base key v = .ok path) ∨
    (NamesNoHome v ∧ readPath home base key v = .error .unknownHome) ∨
    (¬ NamesPath v ∧ ¬ NamesNoHome v ∧ readPath home base key v = .error (.config (.noPath key))) := by
  by_cases hnamed : ∃ text : String, v = .text (.ofText text) ∧ Text.isAllBlank text = false
  · obtain ⟨text, rfl, hblank⟩ := hnamed
    rw [readPath, CodePoints.toTextMarking_ofText]
    simp only [hblank, Bool.false_eq_true, if_false]
    rcases hhome : Store.expandHome home (Path.ofText (Text.stripBlanks text)) with _ | path
    · exact .inr (.inl ⟨⟨text, rfl, hblank, Store.expandHome_eq_none_iff.mp hhome⟩, rfl⟩)
    · refine .inl ⟨⟨text, rfl, hblank, fun hless => ?_⟩, _, rfl⟩
      cases hhome.symm.trans (Store.expandHome_eq_none_iff.mpr hless)
  · refine .inr (.inr ⟨fun ⟨text, hv, hblank, _⟩ => hnamed ⟨text, hv, hblank⟩,
      fun ⟨text, hv, hblank, _⟩ => hnamed ⟨text, hv, hblank⟩, ?_⟩)
    cases v with
    | text codes =>
      obtain ⟨text, rfl⟩ := htext codes rfl
      have hblank : Text.isAllBlank text = true := by
        by_contra hne
        exact hnamed ⟨text, rfl, by simpa using hne⟩
      rw [readPath, CodePoints.toTextMarking_ofText]
      simp only [hblank, if_true]
    | _ => rfl

/-- Why a document holds no configuration, and the fault is none of the configuration. -/
inductive Escapes (document : Value) : SettingFault → Prop where
  /-- A root is in the home of an account that is not known. -/
  | root {values front back : List Value} {v : Value}
      (roots : rootValues (document.entry? "source_roots") = .ok values)
      (first : values = front ++ v :: back) (before : ∀ u ∈ front, NamesPath u) (home : NamesNoHome v) :
      Escapes document .unknownHome
  /-- The directory to write to is. -/
  | output {values : List Value} {v : Value}
      (roots : rootValues (document.entry? "source_roots") = .ok values)
      (before : ∀ u ∈ values, NamesPath u) (output : document.entry? "output_dir" = some v)
      (home : NamesNoHome v) : Escapes document .unknownHome
  /-- A number among the options is too long to be written. -/
  | number {values : List Value} {entries : List (Value × Value)}
      (roots : rootValues (document.entry? "source_roots") = .ok values)
      (before : ∀ u ∈ values, NamesPath u)
      (output : ∀ v, document.entry? "output_dir" = some v → v = .null ∨ NamesPath v)
      (options : document.entry? "options" = some (.map entries))
      (number : Value.entriesAreWritable entries = false) : Escapes document (.document .unwritableNumber)

/-- None of these is a fault of the configuration. -/
theorem Escapes.ne_config (h : Escapes document fault) (reason : ConfigFault) : fault ≠ .config reason := by
  cases h <;> simp

/-- A path is read from a value iff it names one. -/
theorem exists_readPath_iff (home : String) (base : Path) (key : String) (htext : Textual v) :
    (∃ path, readPath home base key v = .ok path) ↔ NamesPath v := by
  rcases readPath_cases home base key htext with ⟨hnames, hread⟩ | ⟨hhome, hread⟩ | ⟨hnot, -, hread⟩
  · exact iff_of_true hread hnames
  · exact iff_of_false (by simp [hread]) fun hnames => hnames.not_namesNoHome hhome
  · exact iff_of_false (by simp [hread]) hnot

/-- It is kept from being read, other than that the configuration is wrong, iff its home is not known. -/
theorem readPath_eq_error_iff (home : String) (base : Path) (key : String) (htext : Textual v)
    (hfault : ∀ reason, fault ≠ .config reason) :
    readPath home base key v = .error fault ↔ fault = .unknownHome ∧ NamesNoHome v := by
  rcases readPath_cases home base key htext with ⟨hnames, path, hread⟩ | ⟨hhome, hread⟩ | ⟨-, hnot, hread⟩
  · exact iff_of_false (by simp [hread]) fun h => hnames.not_namesNoHome h.2
  · rw [hread, Except.error.injEq, and_iff_left hhome, eq_comm]
  · refine iff_of_false ?_ fun h => hnot h.2
    rw [hread, Except.error.injEq]
    exact fun h => hfault _ h.symm

/-- So it is for a list of paths, of which the first one that is not read decides. -/
theorem mapM_readPath_eq_error_iff {key : String} {values : List Value} (htext : ∀ v ∈ values, Textual v)
    (hfault : ∀ reason, fault ≠ .config reason) :
    values.mapM (readPath home base key) = .error fault ↔ fault = .unknownHome ∧
      ∃ front v back, values = front ++ v :: back ∧ (∀ u ∈ front, NamesPath u) ∧ NamesNoHome v := by
  rw [Outcome.mapM_eq_error_iff]
  constructor
  · rintro ⟨front, v, back, rfl, hfront, hv⟩
    obtain ⟨rfl, hhome⟩ := (readPath_eq_error_iff home base key (htext v (by simp)) hfault).mp hv
    exact ⟨rfl, front, v, back, rfl, fun u hu =>
      (exists_readPath_iff home base key (htext u (List.mem_append_left _ hu))).mp (hfront u hu), hhome⟩
  · rintro ⟨rfl, front, v, back, rfl, hfront, hhome⟩
    exact ⟨front, v, back, rfl, fun u hu =>
      (exists_readPath_iff home base key (htext u (List.mem_append_left _ hu))).mpr (hfront u hu),
      (readPath_eq_error_iff home base key (htext v (by simp)) hfault).mpr ⟨rfl, hhome⟩⟩

/-- All of them are read iff all of them name paths. -/
theorem exists_mapM_readPath_iff (home : String) (base : Path) (key : String) {values : List Value}
    (htext : ∀ v ∈ values, Textual v) :
    (∃ paths, values.mapM (readPath home base key) = .ok paths) ↔ ∀ v ∈ values, NamesPath v := by
  simp only [Outcome.mapM_eq_ok_iff]
  constructor
  · rintro ⟨paths, hpaths⟩ v hv
    obtain ⟨path, -, hpath⟩ := Outcome.exists_of_mem_left hpaths hv
    exact (exists_readPath_iff home base key (htext v hv)).mp ⟨path, hpath⟩
  · intro hall
    induction values with
    | nil => exact ⟨[], .nil⟩
    | cons v rest ih =>
      obtain ⟨hv, hrest⟩ := List.forall_mem_cons.mp hall
      obtain ⟨htextv, htextrest⟩ := List.forall_mem_cons.mp htext
      obtain ⟨path, hpath⟩ := (exists_readPath_iff home base key htextv).mpr hv
      obtain ⟨paths, hpaths⟩ := ih htextrest hrest
      exact ⟨path :: paths, .cons hpath hpaths⟩

/-- The directory to write to that a document names. -/
def readOutput (home : String) (base : Path) (document : Value) : Except SettingFault (Option Path) :=
  match document.entry? "output_dir" with
  | none => .ok none
  | some .null => .ok none
  | some v => (readPath home base "output_dir" v).map some

/-- A configuration is read setting by setting. -/
theorem ofDocument_eq (home : String) (base : Path) (document : Value) :
    ofDocument home base document = do
      let values ← (rootValues (document.entry? "source_roots")).mapError .config
      let sourceRoots ← values.mapM (readPath home base "source_roots")
      let outputDir ← readOutput home base document
      let options ← readOptions ((document.entry? "options").getD .null)
      return { sourceRoots, outputDir, options } := by
  rw [ofDocument, readOutput]
  rcases document.entry? "output_dir" with _ | v
  · rfl
  · cases v <;> rfl

/-- What comes of reading it is what comes of reading a path, where there is one. -/
theorem readOutput_of_ne_null (h : document.entry? "output_dir" = some v) (hne : v ≠ .null) :
    readOutput home base document = (readPath home base "output_dir" v).map some := by
  rw [readOutput, h]
  cases v <;> first | rfl | exact absurd rfl hne

/-- Where there is none, nothing is wrong. -/
theorem readOutput_of_null (h : ∀ v, document.entry? "output_dir" = some v → v = .null) :
    readOutput home base document = .ok none := by
  rw [readOutput]
  rcases hv : document.entry? "output_dir" with _ | v
  · rfl
  · rw [h v hv]

/-- The directory to write to is kept from being read iff its home is not known. -/
theorem readOutput_eq_error_iff (htext : ∀ v, document.entry? "output_dir" = some v → Textual v)
    (hfault : ∀ reason, fault ≠ .config reason) :
    readOutput home base document = .error fault ↔
      fault = .unknownHome ∧ ∃ v, document.entry? "output_dir" = some v ∧ NamesNoHome v := by
  by_cases hnull : ∀ v, document.entry? "output_dir" = some v → v = .null
  · rw [readOutput_of_null hnull]
    refine iff_of_false (by simp) ?_
    rintro ⟨-, v, hv, text, htext, -⟩
    cases (hnull v hv).symm.trans htext
  · push Not at hnull
    obtain ⟨v, hv, hne⟩ := hnull
    rw [readOutput_of_ne_null hv hne, hv]
    simp only [Option.some.injEq, exists_eq_left', ← readPath_eq_error_iff home base "output_dir"
      (htext v hv) hfault]
    rcases readPath home base "output_dir" v with fault' | path <;> simp [Except.map]

/-- It is read iff it is not there, or names a path. -/
theorem exists_readOutput_iff (home : String) (base : Path) (htext : ∀ v, document.entry? "output_dir" = some v → Textual v) :
    (∃ output, readOutput home base document = .ok output) ↔
      ∀ v, document.entry? "output_dir" = some v → v = .null ∨ NamesPath v := by
  by_cases hnull : ∀ v, document.entry? "output_dir" = some v → v = .null
  · rw [readOutput_of_null hnull]
    exact iff_of_true ⟨none, rfl⟩ fun v hv => .inl (hnull v hv)
  · push Not at hnull
    obtain ⟨v, hv, hne⟩ := hnull
    rw [readOutput_of_ne_null hv hne, hv]
    simp only [Option.some.injEq, forall_eq', hne, false_or, ← exists_readPath_iff home base
      "output_dir" (htext v hv)]
    rcases readPath home base "output_dir" v with fault' | path <;> simp [Except.map]

/-- Options are kept from being read iff a number among them is too long. -/
theorem readOptions_eq_error_iff (hfault : ∀ reason, fault ≠ .config reason) :
    readOptions v = .error fault ↔ fault = .document .unwritableNumber ∧
      ∃ entries, v = .map entries ∧ Value.entriesAreWritable entries = false := by
  cases v with
  | map entries =>
    rw [readOptions]
    by_cases hwritable : Value.entriesAreWritable entries = true
    · simp [hwritable]
    · rw [if_neg hwritable, Except.error.injEq, eq_comm]
      exact ⟨fun h => ⟨h, entries, rfl, by simpa using hwritable⟩, And.left⟩
  | _ =>
    refine iff_of_false ?_ (by simp)
    rw [readOptions]
    split
    · simp
    · exact fun h => hfault _ (Except.error.inj h).symm
    · simp

/-- **What keeps a document from being read**, other than that its configuration is wrong. -/
theorem ofDocument_eq_error_iff (hfault : ∀ reason, fault ≠ .config reason)
    (hroots : ∀ values, rootValues (document.entry? "source_roots") = .ok values → ∀ v ∈ values, Textual v)
    (houtput : ∀ v, document.entry? "output_dir" = some v → Textual v) :
    ofDocument home base document = .error fault ↔ Escapes document fault := by
  rw [ofDocument_eq, Outcome.bind_eq_error_iff]
  rcases hvalues : rootValues (document.entry? "source_roots") with reason | values
  · -- The roots are wrong.
    refine iff_of_false ?_ ?_
    · rintro (h | ⟨values, h, -⟩)
      · exact hfault reason (Except.error.inj h).symm
      · cases h
    · rintro (⟨h, -, -, -⟩ | ⟨h, -, -, -⟩ | ⟨h, -, -, -, -⟩) <;> cases hvalues.symm.trans h
  have htext := hroots values hvalues
  simp only [Outcome.mapError_ok, reduceCtorEq, Except.ok.injEq, exists_eq_left', false_or,
    Outcome.bind_eq_error_iff, mapM_readPath_eq_error_iff htext hfault,
    readOutput_eq_error_iff houtput hfault, readOptions_eq_error_iff hfault, pure, Except.pure, and_false,
    exists_false, or_false]
  have hall := exists_mapM_readPath_iff home base "source_roots" htext
  have hread := exists_readOutput_iff home base houtput
  constructor
  · rintro (⟨rfl, front, v, back, hfirst, hbefore, hhome⟩ | ⟨roots, hroots, ⟨rfl, v, hv, hhome⟩ |
      ⟨output, hout, rfl, entries, hentries, hnumber⟩⟩)
    · exact .root hvalues hfirst hbefore hhome
    · exact .output hvalues (hall.mp ⟨roots, hroots⟩) hv hhome
    · refine .number hvalues (hall.mp ⟨roots, hroots⟩) (hread.mp ⟨output, hout⟩) ?_ hnumber
      rcases hoptions : document.entry? "options" with _ | v
      · rw [hoptions] at hentries
        cases hentries
      · rw [hoptions] at hentries
        rw [← hentries, Option.getD_some]
  · rintro (⟨h, hfirst, hbefore, hhome⟩ | ⟨h, hbefore, hv, hhome⟩ | ⟨h, hbefore, hout, hoptions, hnumber⟩)
    · obtain rfl := Except.ok.inj (hvalues.symm.trans h)
      exact .inl ⟨rfl, _, _, _, hfirst, hbefore, hhome⟩
    · obtain rfl := Except.ok.inj (hvalues.symm.trans h)
      obtain ⟨roots, hroots⟩ := hall.mpr hbefore
      exact .inr ⟨roots, hroots, .inl ⟨rfl, _, hv, hhome⟩⟩
    · obtain rfl := Except.ok.inj (hvalues.symm.trans h)
      obtain ⟨roots, hroots⟩ := hall.mpr hbefore
      obtain ⟨output, hread⟩ := hread.mpr hout
      exact .inr ⟨roots, hroots, .inr ⟨output, hread, rfl, _, by rw [hoptions, Option.getD_some], hnumber⟩⟩

/-- A point names a path. -/
theorem namesPath_here : NamesPath (.text (.ofText ".")) := by
  refine ⟨".", rfl, by decide, ?_⟩
  rintro ⟨-, account, rest, -, hparts, -⟩
  have hnone : (Path.ofText (Text.stripBlanks ".")).parts = [] := by decide
  cases hnone.symm.trans hparts

/-- A document without settings can be read. -/
theorem not_escapes_of_entry?_eq_none (h : ∀ key, document.entry? key = none) : ¬ Escapes document fault := by
  have hdefault : ∀ {values : List Value}, rootValues (document.entry? "source_roots") = .ok values →
      values = [.text (.ofText ".")] := by
    intro values hvalues
    rw [h] at hvalues
    exact (Except.ok.inj hvalues).symm
  rintro (@⟨values, front, back, v, hroots, hfirst, -, hhome⟩ | ⟨-, -, hout, -⟩ | ⟨-, -, -, hoptions, -⟩)
  · rw [hdefault hroots] at hfirst
    have hmem : v ∈ [Value.text (.ofText ".")] := by
      rw [hfirst]
      exact List.mem_append_right front List.mem_cons_self
    rw [List.mem_singleton.mp hmem] at hhome
    exact namesPath_here.not_namesNoHome hhome
  · cases (h _).symm.trans hout
  · cases (h _).symm.trans hoptions

end Config
end FluentBuilder
