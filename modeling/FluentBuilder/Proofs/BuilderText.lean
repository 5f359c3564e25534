import FluentBuilder.BuilderText
import FluentBuilder.Proofs.Blueprint
import FluentBuilder.Proofs.Syntax.Lexemes

/-!
# What can be read off the text of a builder

The text of a builder says all that its blueprint says about the class and about the members
(`alike_of_render_eq`): two builders with the same text are named alike, build the same target, import the
same modules, and have members of the same names whose types, and those of their setters, are written
alike. So a builder that is out of date differs from what it should be. The blueprints must be such that
nothing in them is broken over several lines (`Blueprint.Unbroken`), and the names of members must be ones
that are accepted.

**The route.** Lines that are not broken can be read off a text (`lines_inj`), so that the lines of both
builders are the same. They are compared from the first to the last. Where their number varies, an empty
line stands behind them: behind the imports, and behind the slots of a new builder, where the setters
begin. Within a line what varies is framed by what does not, but for the name and the type of a slot;
there the first colon parts them, since no accepted name has one (`not_mem_of_checkField`). The setters
follow in order, five lines each, when the names of their members are known.
-/

namespace FluentBuilder

variable {α : Type}

/-! ### Reading lines -/

/-- What stands before the first occurrence of an item and behind it can be read off a list. -/
theorem append_cons_inj {front front' back back' : List α} {a : α} (h : a ∉ front) (h' : a ∉ front')
    (heq : front ++ a :: back = front' ++ a :: back') : front = front' ∧ back = back' := by
  induction front generalizing front' with
  | nil =>
    cases front' with
    | nil => exact ⟨rfl, (List.cons.inj heq).2⟩
    | cons c front' => exact absurd (List.mem_cons.mpr (.inl (List.cons.inj heq).1)) h'
  | cons c front ih =>
    cases front' with
    | nil => exact absurd (List.mem_cons.mpr (.inl (List.cons.inj heq).1.symm)) h
    | cons c' front' =>
      obtain ⟨rfl, hrest⟩ := List.cons.inj heq
      obtain ⟨rfl, hback⟩ := ih (fun hmem => h (List.mem_cons_of_mem _ hmem))
        (fun hmem => h' (List.mem_cons_of_mem _ hmem)) hrest
      exact ⟨rfl, hback⟩

/-- **Lines can be read off a text** if none of them is broken. -/
theorem lines_inj {lines lines' : List String} (h : ∀ line ∈ lines, '\n' ∉ line.toList)
    (h' : ∀ line ∈ lines', '\n' ∉ line.toList)
    (heq : String.join (lines.map (· ++ "\n")) = String.join (lines'.map (· ++ "\n"))) :
    lines = lines' := by
  have hchars (line : String) (rest : List String) :
      (String.join ((line :: rest).map (· ++ "\n"))).toList =
        line.toList ++ '\n' :: (String.join (rest.map (· ++ "\n"))).toList := by
    simp
  induction lines generalizing lines' with
  | nil =>
    cases lines' with
    | nil => rfl
    | cons line' rest' =>
      have hnone := congrArg String.toList heq
      rw [hchars] at hnone
      simp at hnone
  | cons line rest ih =>
    cases lines' with
    | nil =>
      have hnone := congrArg String.toList heq
      rw [hchars] at hnone
      simp at hnone
    | cons line' rest' =>
      have htext := congrArg String.toList heq
      rw [hchars, hchars] at htext
      obtain ⟨hline, hrest⟩ := append_cons_inj (h line List.mem_cons_self) (h' line' List.mem_cons_self) htext
      rw [String.toList_inj.mp hline, ih (fun l hl => h l (List.mem_cons_of_mem _ hl))
        (fun l hl => h' l (List.mem_cons_of_mem _ hl)) (String.toList_inj.mp hrest)]

/-- A character of joined texts is one of the texts or of what stands between them. -/
theorem not_mem_intercalate {c : Char} {separator : String} {texts : List String}
    (hseparator : c ∉ separator.toList) (htexts : ∀ text ∈ texts, c ∉ text.toList) :
    c ∉ (String.intercalate separator texts).toList := by
  induction texts with
  | nil => exact List.not_mem_nil
  | cons text rest ih =>
    obtain ⟨htext, hrest⟩ := List.forall_mem_cons.mp htexts
    by_cases hnil : rest = []
    · rw [hnil, String.intercalate_singleton]
      exact htext
    · rw [String.intercalate_cons_of_ne_nil hnil, String.toList_append, String.toList_append]
      simp only [List.mem_append, not_or]
      exact ⟨⟨htext, hseparator⟩, ih hrest⟩

/-! ### Names of members -/

/-- An accepted name has only characters that words have. -/
theorem not_mem_of_checkField {owner field : String} (h : checkField owner field = .ok ()) {c : Char}
    (hc : Syntax.Reader.isWordPart c = false) : c ∉ field.toList := by
  have hidentifier : Text.isIdentifier field = true := by
    unfold checkField at h
    split at h
    · cases h
    · next hfine => exact (by simpa using hfine : Text.isIdentifier field = true ∧ _).1
  obtain ⟨-, -, -, -, hall, -⟩ := Syntax.exists_of_isIdentifier hidentifier
  intro hmem
  cases hc.symm.trans (hall c hmem)

namespace Member

/-- Two members have the same name, and their types and those of their setters are written alike. -/
structure Alike (m m' : Member) : Prop where
  /-- The names are the same. -/
  name : m.name = m'.name
  /-- The types are written alike. -/
  type : m.type.render = m'.type.render
  /-- The types of the setters are written alike. -/
  setterType : m.setterType.render = m'.setterType.render

end Member

namespace Blueprint

variable {b c : Blueprint} {m m' : Member}

/-- No name of a member of an accepted class has a character that words do not have. -/
theorem not_mem_name_of_ofSchema {schema : Schema} (h : ofSchema schema = .ok b) {c : Char}
    (hc : Syntax.Reader.isWordPart c = false) : ∀ m ∈ b.members, c ∉ m.name.toList := by
  obtain ⟨hchecked, -, -, -, -, hmembers, -⟩ := Schema.ofSchema_eq_ok h
  rw [hmembers]
  intro m hm
  obtain ⟨f, hf, rfl⟩ := List.mem_map.mp hm
  exact not_mem_of_checkField (hchecked f hf) hc

/-- Nothing in a blueprint is broken over several lines: no name, no module and no type that is written. -/
structure Unbroken (b : Blueprint) : Prop where
  /-- The name of the builder is not. -/
  name : '\n' ∉ b.name.toList
  /-- The target is not. -/
  target : '\n' ∉ b.target.toList
  /-- Modules that are imported are not. -/
  imports : ∀ module ∈ b.imports, '\n' ∉ module.toList
  /-- Types of members are not. -/
  types : ∀ m ∈ b.members, '\n' ∉ m.type.render.toList
  /-- Types of setters are not. -/
  setterTypes : ∀ m ∈ b.members, '\n' ∉ m.setterType.render.toList

/-! ### Lines that are not broken -/

section

variable (h : b.Unbroken) (hnames : ∀ m ∈ b.members, '\n' ∉ m.name.toList)

include hnames in
/-- The text of the slots is not broken. -/
theorem not_mem_slotsText : '\n' ∉ b.slotsText.toList := by
  have hquoted : ∀ text ∈ b.members.map fun m => "\"" ++ m.attribute ++ "\"", '\n' ∉ text.toList := by
    intro text htext
    obtain ⟨m, hm, rfl⟩ := List.mem_map.mp htext
    simp [Member.attribute, hnames m hm]
  rw [slotsText]
  split
  · next name hsingle =>
    have hname := hquoted name (hsingle ▸ List.mem_cons_self)
    simp [hname]
  · have hcomma : '\n' ∉ ", ".toList := by simp
    have hjoined := not_mem_intercalate hcomma hquoted
    simp [-String.toList_intercalate, hjoined]

include h in
/-- The lines before the class are not broken. -/
theorem unbroken_headLines : ∀ line ∈ b.headLines, '\n' ∉ line.toList := by
  simpa [headLines, version, h.target, or_imp, forall_and] using h.imports

include h hnames in
/-- The lines of the class are not broken. -/
theorem unbroken_classLines : ∀ line ∈ b.classLines, '\n' ∉ line.toList := by
  simp [classLines, h.target, h.name, not_mem_slotsText hnames]

include h hnames in
/-- The lines of the slots of a new builder are not broken. -/
theorem unbroken_slotLines : ∀ line ∈ b.slotLines, '\n' ∉ line.toList := by
  have hline : ∀ m ∈ b.members, '\n' ∉ (slotLine m).toList := by
    intro m hm
    simp [slotLine, Member.attribute, hnames m hm, h.types m hm]
  rw [slotLines]
  split
  · simp
  · simpa using hline

include h hnames in
/-- The lines of a setter are not broken. -/
theorem unbroken_setterLines (hm : m ∈ b.members) : ∀ line ∈ b.setterLines m, '\n' ∉ line.toList := by
  simp [setterLines, Member.attribute, hnames m hm, h.setterTypes m hm, h.name]

include h hnames in
/-- The lines that build the target are not broken. -/
theorem unbroken_buildLines : ∀ line ∈ b.buildLines, '\n' ∉ line.toList := by
  rw [buildLines]
  split
  · simp [h.target]
  · have hslots : ∀ m ∈ b.members, '\n' ∉ m.attribute.toList ∧ '\n' ∉ m.name.toList :=
      fun m hm => ⟨by simp [Member.attribute, hnames m hm], hnames m hm⟩
    simpa [h.target, or_imp, forall_and] using hslots

include h hnames in
/-- **No line of the text is broken.** -/
theorem unbroken_lines : ∀ line ∈ b.lines, '\n' ∉ line.toList := by
  have hsetters : ∀ line ∈ b.members.flatMap b.setterLines, '\n' ∉ line.toList := by
    intro line hline
    obtain ⟨m, hm, hline⟩ := List.mem_flatMap.mp hline
    exact unbroken_setterLines h hnames hm line hline
  simp only [lines, List.forall_mem_append]
  exact ⟨⟨⟨⟨unbroken_headLines h, unbroken_classLines h hnames⟩, unbroken_slotLines h hnames⟩, hsetters⟩,
    unbroken_buildLines h hnames⟩

end

/-! ### Reading a builder line by line -/

variable {rest rest' : List String}

/-- The lines before the class name the target and the modules that are imported. -/
theorem headLines_inj (h : b.headLines ++ rest = c.headLines ++ rest') :
    b.target = c.target ∧ b.imports = c.imports ∧ rest = rest' := by
  have hfilled (b : Blueprint) : "" ∉ b.imports.map fun m => "import " ++ m := by
    simp
  simp only [headLines, List.append_assoc, List.cons_append, List.nil_append, List.cons.injEq,
    true_and] at h
  obtain ⟨htarget, hlines⟩ := h
  -- No line of an import is empty, so that the next empty line ends them.
  obtain ⟨himports, hrest⟩ := append_cons_inj (hfilled b) (hfilled c) hlines
  refine ⟨by simpa using htarget, ?_, by simpa using hrest⟩
  exact List.map_injective_iff.mpr (fun m m' => (String.append_right_inj "import ").mp) himports

/-- The lines of the class name the builder. -/
theorem classLines_inj (h : b.classLines ++ rest = c.classLines ++ rest') :
    b.name = c.name ∧ rest = rest' := by
  simp only [classLines, List.cons_append, List.nil_append, List.cons.injEq, true_and] at h
  obtain ⟨hname, -, -, hrest⟩ := h
  exact ⟨by simpa using hname, hrest⟩

/-- The line of a slot names the member and has its type, if the name has no colon. -/
theorem slotLine_inj (hm : ':' ∉ m.name.toList) (hm' : ':' ∉ m'.name.toList)
    (h : slotLine m = slotLine m') : m.name = m'.name ∧ m.type.render = m'.type.render := by
  have hchars (name text : String) :
      (name ++ ": " ++ text).toList = name.toList ++ ':' :: ' ' :: text.toList := by
    simp
  have hparts : m.name ++ ": " ++ m.type.render = m'.name ++ ": " ++ m'.type.render := by
    rw [slotLine, slotLine, String.append_left_inj] at h
    simpa only [Member.attribute, String.append_assoc, String.append_right_inj] using h
  have htext := congrArg String.toList hparts
  rw [hchars, hchars] at htext
  obtain ⟨hname, htype⟩ := append_cons_inj hm hm' htext
  exact ⟨String.toList_inj.mp hname, String.toList_inj.mp (List.cons.inj htype).2⟩

/-- The line of a slot is neither empty nor the line that stands for no slots. -/
theorem slotLine_ne (m : Member) : slotLine m ≠ "" ∧ slotLine m ≠ "        pass" := by
  have hchars : ∃ chars, (slotLine m).toList = "        s".toList ++ chars := by
    refine ⟨"elf.".toList ++ (m.attribute ++ ": " ++ m.type.render ++ " | Absent = ABSENT").toList, ?_⟩
    simp [slotLine]
  obtain ⟨chars, hchars⟩ := hchars
  constructor
  · intro h
    simp [h] at hchars
  · intro h
    simp [h] at hchars

/-- Neither is a line of the slots. -/
theorem not_mem_slotLines (b : Blueprint) : "" ∉ b.slotLines := by
  rw [slotLines]
  split
  · simp
  · simp only [List.mem_map, not_exists, not_and]
    exact fun m _ => (slotLine_ne m).1

/-- Lines of slots name the members in order and have their types. -/
theorem forall₂_of_map_slotLine {ms ms' : List Member} (hms : ∀ m ∈ ms, ':' ∉ m.name.toList)
    (hms' : ∀ m ∈ ms', ':' ∉ m.name.toList) (h : ms.map slotLine = ms'.map slotLine) :
    List.Forall₂ (fun m m' => m.name = m'.name ∧ m.type.render = m'.type.render) ms ms' := by
  induction ms generalizing ms' with
  | nil => rw [List.map_eq_nil_iff.mp h.symm]; exact .nil
  | cons m ms ih =>
    cases ms' with
    | nil => cases h
    | cons m' ms' =>
      obtain ⟨hm, hms⟩ := List.forall_mem_cons.mp hms
      obtain ⟨hm', hms'⟩ := List.forall_mem_cons.mp hms'
      obtain ⟨hline, hlines⟩ := List.cons.inj h
      exact .cons (slotLine_inj hm hm' hline) (ih hms hms' hlines)

/-- The lines of the slots of a new builder name the members in order and have their types. -/
theorem slotLines_inj (hb : ∀ m ∈ b.members, ':' ∉ m.name.toList)
    (hc : ∀ m ∈ c.members, ':' ∉ m.name.toList) (h : b.slotLines = c.slotLines) :
    List.Forall₂ (fun m m' => m.name = m'.name ∧ m.type.render = m'.type.render) b.members c.members := by
  have hsome (m : Member) (ms : List Member) : ["        pass"] ≠ (m :: ms).map slotLine :=
    fun heq => (slotLine_ne m).2 (List.cons.inj heq).1.symm
  rw [slotLines, slotLines] at h
  -- Without members there is a line all the same, which is that of no member.
  cases hbs : b.members with
  | nil =>
    cases hcs : c.members with
    | nil => exact .nil
    | cons m' ms' =>
      rw [hbs, hcs] at h
      exact absurd h (hsome m' ms')
  | cons m ms =>
    cases hcs : c.members with
    | nil =>
      rw [hbs, hcs] at h
      exact absurd h.symm (hsome m ms)
    | cons m' ms' =>
      rw [hbs, hcs] at h
      exact forall₂_of_map_slotLine (hbs ▸ hb) (hcs ▸ hc) h

/-- The lines of a setter have its type, when the names of the builder and of the member are known. -/
theorem setterLines_inj (hname : b.name = c.name) (hm : m.name = m'.name)
    (h : b.setterLines m ++ rest = c.setterLines m' ++ rest') :
    m.setterType.render = m'.setterType.render ∧ rest = rest' := by
  simp only [setterLines, List.cons_append, List.nil_append, List.cons.injEq, true_and] at h
  obtain ⟨hsetter, -, hrest⟩ := h
  rw [hname, hm] at hsetter
  exact ⟨by simpa using hsetter, hrest⟩

/-- **The setters follow in the order of the members**, and each of them has its type. -/
theorem alike_of_setterLines (hname : b.name = c.name) {ms ms' : List Member}
    (hms : List.Forall₂ (fun m m' => m.name = m'.name ∧ m.type.render = m'.type.render) ms ms')
    (h : ms.flatMap b.setterLines ++ rest = ms'.flatMap c.setterLines ++ rest') :
    List.Forall₂ Member.Alike ms ms' := by
  induction hms with
  | nil => exact .nil
  | cons hm _ ih =>
    rw [List.flatMap_cons, List.flatMap_cons, List.append_assoc, List.append_assoc] at h
    obtain ⟨htype, hothers⟩ := setterLines_inj hname hm.1 h
    exact .cons ⟨hm.1, hm.2, htype⟩ (ih hothers)

/-- Behind the slots of a new builder stands an empty line. -/
theorem exists_setterLines_eq_cons (b : Blueprint) :
    ∃ rest, b.members.flatMap b.setterLines ++ b.buildLines = "" :: rest := by
  cases hms : b.members with
  | nil => exact ⟨_, rfl⟩
  | cons m ms => exact ⟨_, rfl⟩

/-- What the lines of two builders have in common. -/
theorem eq_of_lines_eq (hb : ∀ m ∈ b.members, ':' ∉ m.name.toList)
    (hc : ∀ m ∈ c.members, ':' ∉ m.name.toList) (h : b.lines = c.lines) :
    b.name = c.name ∧ b.target = c.target ∧ b.imports = c.imports ∧
      List.Forall₂ Member.Alike b.members c.members := by
  simp only [lines, List.append_assoc] at h
  obtain ⟨htarget, himports, hclass⟩ := headLines_inj h
  obtain ⟨hname, hslots⟩ := classLines_inj hclass
  obtain ⟨rest, hrest⟩ := exists_setterLines_eq_cons b
  obtain ⟨rest', hrest'⟩ := exists_setterLines_eq_cons c
  rw [hrest, hrest'] at hslots
  obtain ⟨hslots, hothers⟩ := append_cons_inj (not_mem_slotLines b) (not_mem_slotLines c) hslots
  have hsetters : b.members.flatMap b.setterLines ++ b.buildLines =
      c.members.flatMap c.setterLines ++ c.buildLines := by
    rw [hrest, hrest', hothers]
  exact ⟨hname, htarget, himports, alike_of_setterLines hname (slotLines_inj hb hc hslots) hsetters⟩

/-- **The text of a builder says all that its blueprint says** about the names, the modules and the types. -/
theorem alike_of_render_eq {schema other : Schema} (hb : ofSchema schema = .ok b)
    (hc : ofSchema other = .ok c) (hunbroken : b.Unbroken) (hunbroken' : c.Unbroken)
    (h : b.render = c.render) :
    b.name = c.name ∧ b.target = c.target ∧ b.imports = c.imports ∧
      List.Forall₂ Member.Alike b.members c.members := by
  have hlines : b.lines = c.lines :=
    lines_inj (unbroken_lines hunbroken (not_mem_name_of_ofSchema hb (by decide)))
      (unbroken_lines hunbroken' (not_mem_name_of_ofSchema hc (by decide))) h
  exact eq_of_lines_eq (not_mem_name_of_ofSchema hb (by decide))
    (not_mem_name_of_ofSchema hc (by decide)) hlines

/-- A class that is nested in another one, with a field of a type in a module of the name of that class. -/
def innerSchema : Schema :=
  ⟨"lot", "cars.Car", "", [⟨"engine", TypeRef.named "lot.cars" "Engine", "lot.cars.Car"⟩]⟩

/-- A class of that module, with a field of a type that is nested in a class of that name. -/
def outerSchema : Schema :=
  ⟨"lot.cars", "Car", "lot", [⟨"engine", TypeRef.named "lot" "cars.Engine", "lot.cars.Car"⟩]⟩

/-- The blueprint of the nested class. -/
def innerBlueprint : Blueprint :=
  ⟨"CarBuilder", namespaceFor innerSchema.enclosingScope, "lot.cars.Car", "lot",
    [⟨"engine", TypeRef.named "lot.cars" "Engine"⟩], ["lot", "lot.cars"]⟩

/-- The blueprint of the class of the module. -/
def outerBlueprint : Blueprint :=
  ⟨"CarBuilder", namespaceFor outerSchema.enclosingScope, "lot.cars.Car", "lot.cars",
    [⟨"engine", TypeRef.named "lot" "cars.Engine"⟩], ["lot", "lot.cars"]⟩

/-- Neither of them is broken over lines. -/
theorem unbroken_innerBlueprint : innerBlueprint.Unbroken ∧ outerBlueprint.Unbroken := by
  constructor <;> constructor <;> decide

/-- The two builders have one text, although they come from different modules; what the text says of them
is the same. -/
theorem alike_of_innerBlueprint :
    ofSchema innerSchema = .ok innerBlueprint ∧ ofSchema outerSchema = .ok outerBlueprint ∧
      innerBlueprint.render = outerBlueprint.render ∧
      List.Forall₂ Member.Alike innerBlueprint.members outerBlueprint.members := by
  have hinner : ofSchema innerSchema = .ok innerBlueprint := rfl
  have houter : ofSchema outerSchema = .ok outerBlueprint := rfl
  have hlines : innerBlueprint.lines = outerBlueprint.lines := rfl
  have hrender : innerBlueprint.render = outerBlueprint.render := by rw [render, hlines, render]
  obtain ⟨hunbroken, hunbroken'⟩ := unbroken_innerBlueprint
  obtain ⟨-, -, -, hmembers⟩ := alike_of_render_eq hinner houter hunbroken hunbroken' hrender
  exact ⟨hinner, houter, hrender, hmembers⟩

end Blueprint
end FluentBuilder
