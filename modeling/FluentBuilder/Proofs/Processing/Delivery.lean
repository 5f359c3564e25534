import FluentBuilder.Proofs.Processing.Footprint
import FluentBuilder.Proofs.Processing.Regeneration

/-!
# What the file of a builder holds afterwards

Writing a builder is to leave its bytes in its file, to change no other file, and to report that the file is
unchanged iff it held these bytes before (`Delivered`). Whether it does depends on how the file that stands
there compares (`delivered_iff`): not bytes are compared, but texts, after line ends have been unified.

**Where it does not.** A file whose lines end with two characters compares equal and is left as it is
(`not_delivered_of_returns`). A file that is no text cannot be compared. A text with carriage returns never
compares equal, and is written again. And a name may leave no room for that of the temporary file.
-/

namespace FluentBuilder.Processing

open Stateful Store Filing

variable {root p : Path} {b : Blueprint} {run run' : Run} {s : Store}

/-! ### Looking at the file -/

/-- What stands at a path that is not too long is what is seen there. -/
theorem look_of_fits (h : Resolved p) (hrooted : s.Rooted) (hfits : Fits p) :
    s.look p = .ok (s.node? p.parts) := by
  by_cases hpaved : Paved s [] p.parts.dropLast
  · have hplace := h.placeOf_of_paved hfits hpaved
    rw [Store.look, h.not_null, status, hplace]
    cases hnode : s.node? p.parts with
    | none =>
      simp only [bind, Except.bind, hnode]
      rfl
    | some node =>
      simp only [bind, Except.bind, hnode]
      rfl
  · -- Nothing stands where no directories lead to.
    have hnone : s.node? p.parts = none := by
      by_contra hsome
      refine hpaved fun front hfront hne => ?_
      obtain ⟨further, hparts⟩ := hfront
      have hnil : p.parts ≠ [] := by
        intro hnil
        rw [hnil, List.dropLast_nil, List.append_eq_nil_iff] at hparts
        exact hne hparts.1
      rw [← List.dropLast_concat_getLast hnil, ← hparts, List.append_assoc] at hsome
      exact hrooted.directory (by simp) hsome
    rw [h.look_of_not_paved hfits.path (hfits.names.of_prefix (List.dropLast_prefix _)) hpaved, hnone]

/-- The text at such a path is that of the file that stands there. -/
theorem textAt_of_fits (h : Resolved p) (hrooted : s.Rooted) (hfits : Fits p) :
    (s.fileAt p.parts = none ∧ textAt s p = .ok none) ∨
      ∃ bytes, s.fileAt p.parts = some bytes ∧
        textAt s p = ((Running.textOf bytes).map some).mapError .undecodable := by
  have hlook := look_of_fits h hrooted hfits
  cases hnode : s.node? p.parts with
  | none => exact .inl ⟨by rw [fileAt, hnode], by rw [textAt, hlook, hnode]⟩
  | some node =>
    cases node with
    | directory => exact .inl ⟨by rw [fileAt, hnode], by rw [textAt, hlook, hnode]⟩
    | file bytes => exact .inr ⟨bytes, fileAt_eq_some_iff.mpr hnode, by rw [textAt, hlook, hnode]⟩

/-! ### What comes of it -/

/-- The file of a builder can be written, as far as that can be seen: the root is fit, the path can be looked
up, the directories around it stand or can be made, and it is the path of a file or of nothing. -/
structure Writable (s : Store) (root : Path) (b : Blueprint) : Prop where
  /-- All stands in directories. -/
  rooted : s.Rooted
  /-- The root is a directory, or nothing stands there. -/
  above : Running.Fit s root
  /-- The path is as resolved paths are. -/
  path : Resolved (b.outputPath root)
  /-- It is not too long. -/
  fits : Fits (b.outputPath root)
  /-- No file stands where a directory is to be. -/
  free : ∀ place, ¬ Obstructed s (b.outputPath root).parent place
  /-- No directory stands where the file is to be. -/
  file : s.node? (b.outputPath root).parts ≠ some .directory

/-- There is room for the temporary file: its name, which is longer, is not too long. -/
def Roomy (s : Store) (p : Path) : Prop := ∀ n, First s p n → Fits (temporaryPath p n)

/-- All files but one are the same. -/
def OnlyAt (place : Place) (before after : Store) : Prop :=
  ∀ other, other ≠ place → after.fileAt other = before.fileAt other

/-- The file is written, if there is room for the temporary file. -/
theorem exec_writeWhole_of_writable (h : Writable s root b) (bytes : List UInt8) :
    (Roomy s (b.outputPath root) ∧ ∃ s', exec (writeWhole (b.outputPath root) bytes) s = (.ok (), s') ∧
      s'.fileAt (b.outputPath root).parts = some bytes ∧ OnlyAt (b.outputPath root).parts s s') ∨
    ¬ Roomy s (b.outputPath root) ∧ ∃ path s',
      exec (writeWhole (b.outputPath root) bytes) s = (.error (.nameTooLong path), s') ∧
        ∀ place, s'.fileAt place = s.fileAt place := by
  have hne : (b.outputPath root).parts ≠ [] := by
    intro hnil
    have hfile := h.file
    rw [hnil] at hfile
    exact hfile (node?_nil s)
  have hwriting := writing_writeWhole h.path hne h.rooted bytes
  rcases writeWhole_spec (b.outputPath root) bytes s with
    ⟨fault, s', hwrite, hevolves⟩ | ⟨place, s', hwrite, -, hplace, hbytes, hevolves⟩
  · rw [hwrite] at hwriting
    generalize hresult : (Except.error fault : Except StoreFault Unit) = result at hwriting
    cases hwriting with
    | obstructed hfile => exact absurd hfile (h.free _)
    | @tooLong path _ hlong =>
      obtain rfl := Except.error.inj hresult
      refine .inr ⟨fun hroomy => ?_, path, s', hwrite, fun place => hevolves.fileAt_eq place not_false⟩
      obtain ⟨n, -, hfirst⟩ := exists_first s (b.outputPath root)
      exact hlong h.fits.parent n hfirst (hroomy n hfirst)
    | directory _ _ _ _ hnode => exact absurd hnode h.file
    | written => cases hresult
  · rw [hwrite] at hwriting
    obtain rfl := h.path.eq_of_placeOf hplace
    generalize hresult : (Except.ok () : Except StoreFault Unit) = result at hwriting
    cases hwriting with
    | written _ _ hfirst hfits =>
      exact .inl ⟨fun m hm => hfirst.unique hm ▸ hfits, s', hwrite, hbytes, hevolves.fileAt_eq⟩
    | obstructed => cases hresult
    | tooLong => cases hresult
    | directory => cases hresult

/-- What comes of writing a builder whose file can be written. -/
inductive Comes (root : Path) (b : Blueprint) (run : Run) : Except RunFault (Path × EmitStatus) × Run → Prop
  /-- The file that stands there is no text. -/
  | undecodable {bytes : List UInt8} {fault : Utf8.Fault}
    (hfile : run.store.fileAt (b.outputPath root).parts = some bytes)
    (htext : Running.textOf bytes = .error fault) : Comes root b run (.error (.undecodable fault), run)
  /-- Its text is that of the builder, when line ends are unified. -/
  | unchanged {bytes : List UInt8} (hfile : run.store.fileAt (b.outputPath root).parts = some bytes)
    (htext : Running.textOf bytes = .ok b.render) :
    Comes root b run (.ok (b.outputPath root, .unchanged), run)
  /-- There is no file, or its text is another one, and the file is written. -/
  | generated {store' : Store} (hother : ∀ bytes, run.store.fileAt (b.outputPath root).parts = some bytes →
      ∃ text, Running.textOf bytes = .ok text ∧ text ≠ b.render)
    (hroomy : Roomy run.store (b.outputPath root))
    (hbytes : store'.fileAt (b.outputPath root).parts = some (Utf8.encode b.render))
    (hothers : OnlyAt (b.outputPath root).parts run.store store') :
    Comes root b run (.ok (b.outputPath root, .generated), { run with store := store' })
  /-- There is no room for the temporary file. -/
  | tooLong {path : String} {store' : Store}
    (hother : ∀ bytes, run.store.fileAt (b.outputPath root).parts = some bytes →
      ∃ text, Running.textOf bytes = .ok text ∧ text ≠ b.render)
    (hcrowded : ¬ Roomy run.store (b.outputPath root))
    (hfiles : ∀ place, store'.fileAt place = run.store.fileAt place) :
    Comes root b run (.error (.store (.nameTooLong path)), { run with store := store' })

/-- **What comes of writing a builder**, by what stands in its file. -/
theorem comes_emit (h : Writable run.store root b) : Comes root b run (exec (emit root false b) run) := by
  have hemit := exec_emit_of_fit h.above false b
  -- The file is written unless its text is that of the builder.
  have hwritten : ∀ existing, textAt run.store (b.outputPath root) = .ok existing →
      existing ≠ some b.render → (∀ bytes, run.store.fileAt (b.outputPath root).parts = some bytes →
        ∃ text, Running.textOf bytes = .ok text ∧ text ≠ b.render) →
      Comes root b run (exec (emit root false b) run) := by
    intro existing htext hother hfile
    rw [hemit, htext]
    simp only [exec_settle, if_neg hother, Bool.false_eq_true, if_false]
    rcases exec_writeWhole_of_writable h (Utf8.encode b.render) with
      ⟨hroomy, s', hwrite, hbytes, hothers⟩ | ⟨hcrowded, path, s', hwrite, hfiles⟩
    · rw [hwrite]
      exact .generated hfile hroomy hbytes hothers
    · rw [hwrite]
      exact .tooLong hfile hcrowded hfiles
  rcases textAt_of_fits h.path h.rooted h.fits with ⟨hnone, htext⟩ | ⟨bytes, hfile, htext⟩
  · exact hwritten none htext (by simp) (fun bytes hbytes => by rw [hnone] at hbytes; cases hbytes)
  · rcases hdecoded : Running.textOf bytes with fault | text
    · rw [hdecoded] at htext
      rw [hemit, htext]
      exact .undecodable hfile hdecoded
    · rw [hdecoded] at htext
      by_cases hsame : text = b.render
      · have hsettled : exec (settle (b.outputPath root) false b (some text)) run =
            (.ok .unchanged, run) := by
          rw [exec_settle, if_pos (congrArg some hsame)]
        rw [hsame] at hdecoded
        rw [hemit, htext]
        simp only [Except.map, Outcome.mapError_ok, hsettled]
        exact .unchanged hfile hdecoded
      · refine hwritten (some text) htext (by simpa using hsame) fun bytes' hbytes' => ?_
        obtain rfl := Option.some.inj (hfile.symm.trans hbytes')
        exact ⟨text, hdecoded, hsame⟩

/-! ### Delivery -/

/-- The builder is delivered: its file holds its bytes then and no other file has changed, and the file is
reported as unchanged iff it held these bytes before. -/
def Delivered (root : Path) (b : Blueprint) (run : Run) : Prop :=
  ∃ status run', exec (emit root false b) run = (.ok (b.outputPath root, status), run') ∧
    run'.store.fileAt (b.outputPath root).parts = some (Utf8.encode b.render) ∧
    OnlyAt (b.outputPath root).parts run.store run'.store ∧
    (status = .generated ∨ status = .unchanged) ∧
    (status = .unchanged ↔
      run.store.fileAt (b.outputPath root).parts = some (Utf8.encode b.render))

/-- **When a builder is delivered**: what stands in its file is a text, which is that of the builder iff the
bytes are; and there is room for the temporary file, unless these bytes stand there already. -/
theorem delivered_iff (h : Writable run.store root b) :
    Delivered root b run ↔
      (∀ bytes, run.store.fileAt (b.outputPath root).parts = some bytes → ∃ text,
        Running.textOf bytes = .ok text ∧ (text = b.render ↔ bytes = Utf8.encode b.render)) ∧
      (run.store.fileAt (b.outputPath root).parts ≠ some (Utf8.encode b.render) →
        Roomy run.store (b.outputPath root)) := by
  have hcomes := comes_emit h
  rw [Delivered]
  generalize exec (emit root false b) run = result at hcomes ⊢
  cases hcomes with
  | undecodable hfile htext =>
    refine iff_of_false ?_ ?_
    · rintro ⟨status, run', hdone, -⟩
      cases hdone
    · rintro ⟨hsame, -⟩
      obtain ⟨text, hdecoded, -⟩ := hsame _ hfile
      cases htext.symm.trans hdecoded
  | @unchanged bytes hfile htext =>
    constructor
    · rintro ⟨status, run', hdone, hbytes, -⟩
      cases hdone
      refine ⟨fun bytes' hbytes' => ?_, fun hother => absurd hbytes hother⟩
      obtain rfl := Option.some.inj (hfile.symm.trans hbytes')
      exact ⟨b.render, htext, fun _ => Option.some.inj (hfile.symm.trans hbytes), fun _ => rfl⟩
    · rintro ⟨hsame, -⟩
      obtain ⟨text, hdecoded, hiff⟩ := hsame bytes hfile
      obtain rfl := Except.ok.inj (htext.symm.trans hdecoded)
      have hbytes : run.store.fileAt (b.outputPath root).parts = some (Utf8.encode b.render) := by
        rw [hfile, hiff.mp rfl]
      exact ⟨.unchanged, run, rfl, hbytes, fun _ _ => rfl, .inr rfl, fun _ => hbytes, fun _ => rfl⟩
  | generated hother hroomy hbytes hothers =>
    constructor
    · rintro ⟨status, run', hdone, -, -, -, hstatus⟩
      cases hdone
      refine ⟨fun bytes hfile => ?_, fun _ => hroomy⟩
      obtain ⟨text, hdecoded, hne⟩ := hother bytes hfile
      refine ⟨text, hdecoded, fun hsame => absurd hsame hne, fun hsame => ?_⟩
      cases hstatus.mpr (hsame ▸ hfile)
    · rintro ⟨hsame, -⟩
      refine ⟨.generated, _, rfl, hbytes, hothers, .inl rfl, fun hunchanged => ?_, fun hfile => ?_⟩
      · cases hunchanged
      · -- The bytes stood there before, and compared as another text.
        obtain ⟨text, hdecoded, hiff⟩ := hsame _ hfile
        obtain ⟨text', hdecoded', hne⟩ := hother _ hfile
        obtain rfl := Except.ok.inj (hdecoded.symm.trans hdecoded')
        exact absurd (hiff.mpr rfl) hne
  | tooLong hother hcrowded hfiles =>
    refine iff_of_false ?_ ?_
    · rintro ⟨status, run', hdone, -⟩
      cases hdone
    · rintro ⟨hsame, hroom⟩
      refine hcrowded (hroom fun hfile => ?_)
      obtain ⟨text, hdecoded, hiff⟩ := hsame _ hfile
      obtain ⟨text', hdecoded', hne⟩ := hother _ hfile
      obtain rfl := Except.ok.inj (hdecoded.symm.trans hdecoded')
      exact hne (hiff.mpr rfl)

/-! ### Other line ends -/

/-- A text with two characters at the end of every line. -/
def withReturns (text : String) : String :=
  String.ofList (text.toList.flatMap fun c => if c = '\n' then ['\r', '\n'] else [c])

/-- They are one again when line ends are unified. -/
theorem unifyLineEnds_flatMap {cs : List Char} (h : '\r' ∉ cs) :
    Syntax.unifyLineEnds (cs.flatMap fun c => if c = '\n' then ['\r', '\n'] else [c]) = cs := by
  induction cs with
  | nil => rfl
  | cons c cs ih =>
    rw [List.mem_cons, not_or] at h
    rw [List.flatMap_cons]
    by_cases hline : c = '\n'
    · rw [if_pos hline, List.cons_append, List.singleton_append, Syntax.unifyLineEnds, ih h.2, hline]
    · rw [if_neg hline, List.singleton_append, Syntax.unifyLineEnds, ih h.2,
        if_neg (by simpa using Ne.symm h.1)]
      intro rest heq
      exact absurd heq.symm h.1

/-- So the same text is read. -/
theorem textOf_withReturns {text : String} (h : '\r' ∉ text.toList) :
    Running.textOf (Utf8.encode (withReturns text)) = .ok text := by
  rw [Running.textOf, Utf8.decode_encode, Except.map, withReturns, String.toList_ofList,
    unifyLineEnds_flatMap h, String.ofList_toList]

/-- The bytes are others, if there is a line. -/
theorem encode_withReturns_ne {text : String} (h : '\r' ∉ text.toList) (hline : '\n' ∈ text.toList) :
    Utf8.encode (withReturns text) ≠ Utf8.encode text := by
  intro hsame
  have hdecoded := congrArg Utf8.decode hsame
  rw [Utf8.decode_encode, Utf8.decode_encode] at hdecoded
  have hchars : (withReturns text).toList = text.toList := congrArg String.toList (Except.ok.inj hdecoded)
  rw [withReturns, String.toList_ofList] at hchars
  refine h (hchars ▸ List.mem_flatMap.mpr ⟨'\n', hline, ?_⟩)
  simp

/-- **A builder is not delivered over a file with other line ends**: the file is left as it is, and said to be
unchanged. -/
theorem not_delivered_of_returns (h : Writable run.store root b) (hreturn : '\r' ∉ b.render.toList)
    (hline : '\n' ∈ b.render.toList) (hfile : run.store.fileAt (b.outputPath root).parts =
      some (Utf8.encode (withReturns b.render))) :
    exec (emit root false b) run = (.ok (b.outputPath root, .unchanged), run) ∧ ¬ Delivered root b run := by
  have hdone : exec (emit root false b) run = (.ok (b.outputPath root, .unchanged), run) := by
    have hcomes := comes_emit h
    have hread := textOf_withReturns hreturn
    generalize exec (emit root false b) run = result at hcomes ⊢
    cases hcomes with
    | undecodable hfile' htext =>
      obtain rfl := Option.some.inj (hfile.symm.trans hfile')
      cases hread.symm.trans htext
    | unchanged => rfl
    | generated hother =>
      obtain ⟨text, htext, hne⟩ := hother _ hfile
      exact absurd (Except.ok.inj (htext.symm.trans hread)) hne
    | tooLong hother =>
      obtain ⟨text, htext, hne⟩ := hother _ hfile
      exact absurd (Except.ok.inj (htext.symm.trans hread)) hne
  refine ⟨hdone, ?_⟩
  rintro ⟨status, run', hsame, hbytes, -⟩
  cases hdone.symm.trans hsame
  exact encode_withReturns_ne hreturn hline (Option.some.inj (hfile.symm.trans hbytes))

/-! ### A class without fields -/

/-- The builder of a class without fields. -/
def carBuilder : Blueprint := ⟨"CarBuilder", "", "m.Car", "m", [], ["m"]⟩

/-- The directory that it is written to. -/
def outRoot : Path := ⟨.absolute, ["out"]⟩

/-- Its file. -/
theorem outputPath_carBuilder : carBuilder.outputPath outRoot = ⟨.absolute, ["out", "CarBuilder.py"]⟩ := by
  decide +kernel

/-- Its text. -/
theorem render_carBuilder : carBuilder.render = yardBuilder := by decide +kernel

/-- It can be written where no file is in the way. -/
theorem writable_carBuilder (hrooted : s.Rooted) (habove : Running.Fit s outRoot)
    (hout : ∀ bytes, s.node? ["out"] ≠ some (.file bytes))
    (hfile : s.node? ["out", "CarBuilder.py"] ≠ some .directory) : Writable s outRoot carBuilder where
  rooted := hrooted
  above := habove
  path := by
    rw [outputPath_carBuilder]
    exact ⟨rfl, by decide, by decide +kernel⟩
  fits := by
    rw [outputPath_carBuilder]
    decide +kernel
  free := by
    rw [outputPath_carBuilder]
    rintro place ⟨-, hfront, -, bytes, hbytes⟩
    rcases List.prefix_cons_iff.mp (show place <+: ["out"] from hfront) with rfl | ⟨rest, rfl, hrest⟩
    · cases (node?_nil s).symm.trans hbytes
    · rw [List.prefix_nil.mp hrest] at hbytes
      exact hout bytes hbytes
  file := by
    rw [outputPath_carBuilder]
    exact hfile

/-- The builder is delivered beside its module, to a directory that is to be made. -/
theorem delivered_of_yard :
    Writable yard outRoot carBuilder ∧ Delivered outRoot carBuilder ⟨yard, [], []⟩ := by
  have hrooted : ∀ entry ∈ yard.nodes, yard.node? entry.1.dropLast = some .directory := by decide +kernel
  have hnone : yard.node? ["out"] = none := by decide +kernel
  have hfile : yard.node? ["out", "CarBuilder.py"] = none := by decide +kernel
  have habove : yard.look outRoot = .ok none := by decide +kernel
  have hwritable : Writable yard outRoot carBuilder :=
    writable_carBuilder (rooted_of_nodes hrooted) (.inl habove) (by simp [hnone]) (by simp [hfile])
  refine ⟨hwritable, (delivered_iff hwritable).mpr ⟨fun bytes hbytes => ?_, fun _ n hn => ?_⟩⟩
  · rw [outputPath_carBuilder, fileAt, hfile] at hbytes
    cases hbytes
  · -- The first name is free.
    have hfirst : First yard (carBuilder.outputPath outRoot) 0 := by
      refine ⟨?_, fun k hk => absurd hk (Nat.not_lt_zero k)⟩
      rw [outputPath_carBuilder]
      exact fun hoccupied => hoccupied.2 (by decide +kernel)
    rw [hn.unique hfirst, outputPath_carBuilder]
    decide +kernel

/-- A directory in which the builder stands with other line ends. -/
def fence : Store :=
  ⟨[(["out"], .directory), (["out", "CarBuilder.py"], .file (Utf8.encode (withReturns yardBuilder)))],
    [], "/root"⟩

/-- There it is not delivered. -/
theorem not_delivered_of_fence :
    Writable fence outRoot carBuilder ∧ ¬ Delivered outRoot carBuilder ⟨fence, [], []⟩ := by
  have hout : fence.node? ["out"] = some .directory := rfl
  have hfile : fence.node? ["out", "CarBuilder.py"] = some (.file (Utf8.encode (withReturns yardBuilder))) :=
    rfl
  have hline : '\n' ∈ yardBuilder.toList := by
    unfold yardBuilder
    simp only [String.toList_append]
    decide +kernel
  have hrooted : ∀ entry ∈ fence.nodes, fence.node? entry.1.dropLast = some .directory := by
    rintro entry hentry
    rcases List.mem_cons.mp hentry with rfl | hentry
    · rfl
    · rw [List.mem_singleton.mp hentry]
      exact hout
  have habove : Running.Fit fence outRoot := .inr (by decide +kernel)
  have hwritable : Writable fence outRoot carBuilder :=
    writable_carBuilder (rooted_of_nodes hrooted) habove (by simp [hout]) (by simp [hfile])
  have hbytes : fence.fileAt (carBuilder.outputPath outRoot).parts =
      some (Utf8.encode (withReturns carBuilder.render)) := by
    rw [outputPath_carBuilder, render_carBuilder]
    exact fileAt_eq_some_iff.mpr hfile
  rw [← render_carBuilder] at hline
  have hreturn : '\r' ∉ carBuilder.render.toList := by
    rw [render_carBuilder]
    exact not_return_yardBuilder
  obtain ⟨-, hnot⟩ : exec (emit outRoot false carBuilder) ⟨fence, [], []⟩ =
      (.ok (carBuilder.outputPath outRoot, .unchanged), ⟨fence, [], []⟩) ∧
        ¬ Delivered outRoot carBuilder ⟨fence, [], []⟩ :=
    not_delivered_of_returns hwritable hreturn hline hbytes
  exact ⟨hwritable, hnot⟩

end FluentBuilder.Processing
