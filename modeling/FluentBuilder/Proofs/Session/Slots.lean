import FluentBuilder.Proofs.Blueprint
import FluentBuilder.Proofs.Text.Normal
import FluentBuilder.Session

/-!
# The names inside a builder agree

A builder writes the name of a slot in several places: where slots are declared, where a new session
clears them, in the setters and where the target is built. `Blueprint.Orderly` says that all of these
are the same names, that no two members share one, that none of them is the name of anything else in
the builder, and that the target's name leads to the target. Sessions are reasoned about from that
alone (`Session.start_of_orderly`, `Session.get_set`, `Session.build_of_orderly`).

That the blueprint of a class is orderly (`orderly_of_ofSchema`) depends on ordinary names
(`Schema.OrdinaryNames`). With other names it fails: two leading underscores are changed inside a
class, a name that is not in normal form is read as another one, and a target whose module is named
like one of the tools is hidden by that tool.
-/

namespace FluentBuilder

/-! ### Ordinary names -/

/-- The names that the module of a builder binds besides those of the imported modules. -/
def Blueprint.ownNames (builder : String) : List String :=
  ["ABSENT", "Absent", "fluent", "require", builder]

/-- A class with ordinary names, as seen from its builder. -/
structure Schema.OrdinaryNames (schema : Schema) (builder : String) : Prop where
  /-- No two fields share a name. -/
  distinct : (schema.fields.map (·.name)).Nodup
  /-- The names of fields are in normal form. -/
  normal : ∀ f ∈ schema.fields, Text.normalForm f.name = f.name
  /-- No field begins with an underscore. -/
  plain : ∀ f ∈ schema.fields, f.name.toList.head? ≠ some '_'
  /-- No segment of the target's name begins with two underscores. -/
  visible : ∀ segment ∈ Dotted.segments schema.qualifiedName,
    "__".toList.isPrefixOf segment.toList = false
  /-- The class is not one of the tools. -/
  apart : schema.module ≠ runtimeModule
  /-- The outermost module of the class is not hidden by a name of the builder's module. -/
  unhidden : (Dotted.splitHead schema.module).1 ∉ Blueprint.ownNames builder

/-! ### Orderly blueprints -/

/-- The names inside a builder agree. -/
structure Blueprint.Orderly (b : Blueprint) : Prop where
  /-- No two members share a name. -/
  distinct : (b.members.map (·.name)).Nodup
  /-- Slots are declared under the names of the members behind an underscore. -/
  slot_eq : ∀ m ∈ b.members, b.slot m = m.attribute
  /-- The code names slots in the same way. -/
  codeSlot_eq : ∀ m ∈ b.members, b.codeSlot m = m.attribute
  /-- Setters are named like members. -/
  method_eq : ∀ m ∈ b.members, b.method m = m.name
  /-- No slot has the name of something in the body of the builder. -/
  not_mem_bodyNames : ∀ m ∈ b.members, m.attribute ∉ b.bodyNames
  /-- No slot is one that every object has. -/
  not_mem_commonSlots : ∀ m ∈ b.members, m.attribute ∉ Session.commonSlots
  /-- The target is found. -/
  lookUpTarget_eq : Session.lookUpTarget b = .ok ()

/-! ### Names of slots -/

/-- A name that does not begin with two underscores is the same inside a class. -/
theorem privateName_eq_self {name : String} (h : "__".toList.isPrefixOf name.toList = false)
    (cls : String) : privateName cls name = name := by
  simp only [privateName, h, Bool.false_and, Bool.false_eq_true, if_false]

/-- A name that begins with no underscore does not begin with two. -/
theorem isPrefixOf_of_head? {name : String} (h : name.toList.head? ≠ some '_') :
    "__".toList.isPrefixOf name.toList = false := by
  cases hname : name.toList with
  | nil => rfl
  | cons c cs =>
    rw [hname, List.head?_cons, ne_eq, Option.some.injEq] at h
    have hne : ('_' == c) = false := beq_eq_false_iff_ne.mpr (Ne.symm h)
    simp [List.isPrefixOf, hne]

/-- The characters of a name behind an underscore. -/
theorem toList_underscore (name : String) : ("_" ++ name).toList = '_' :: name.toList := by
  rw [String.toList_append]
  rfl

/-- A name that begins with no underscore has only one behind an underscore. -/
theorem isPrefixOf_underscore {name : String} (h : name.toList.head? ≠ some '_') :
    "__".toList.isPrefixOf ("_" ++ name).toList = false := by
  have hone : ("__".toList.isPrefixOf ('_' :: name.toList)) = "_".toList.isPrefixOf name.toList := rfl
  rw [toList_underscore, hone]
  cases hname : name.toList with
  | nil => rfl
  | cons c cs =>
    rw [hname, List.head?_cons, ne_eq, Option.some.injEq] at h
    have hne : ('_' == c) = false := beq_eq_false_iff_ne.mpr (Ne.symm h)
    simp [List.isPrefixOf, hne]

/-- The characters of a slot are an underscore and those of the member. -/
theorem toList_attribute (m : Member) : m.attribute.toList = '_' :: m.name.toList :=
  toList_underscore m.name

/-- Members with different names have different slots. -/
theorem attribute_inj {m n : Member} (h : m.attribute = n.attribute) : m.name = n.name := by
  have hchars := congrArg String.toList h
  rw [toList_attribute, toList_attribute, List.cons.injEq] at hchars
  exact String.toList_inj.mp hchars.2

/-- The slot of a member that does not begin with an underscore begins with one only. -/
theorem isPrefixOf_attribute {m : Member} (h : m.name.toList.head? ≠ some '_') :
    "__".toList.isPrefixOf m.attribute.toList = false :=
  isPrefixOf_underscore h

/-- A name with two underscores in front is not the slot of a member that begins with none. -/
theorem attribute_ne {m : Member} (h : m.name.toList.head? ≠ some '_') {name : String}
    (hname : "__".toList.isPrefixOf name.toList = true) : m.attribute ≠ name := by
  rintro rfl
  rw [isPrefixOf_attribute h] at hname
  cases hname

/-! ### The target -/

/-- Segments that are the same inside a class are found one in the other. -/
theorem lookUpFrom_eq_ok {segments : List String}
    (h : ∀ segment ∈ segments, "__".toList.isPrefixOf segment.toList = false) (b : Blueprint)
    (modules : Nat) (known : List String) :
    Session.lookUpFrom b modules known segments = .ok () := by
  induction segments generalizing known with
  | nil => rfl
  | cons segment rest ih =>
    obtain ⟨hsegment, hrest⟩ := List.forall_mem_cons.mp h
    rw [Session.lookUpFrom, if_pos (privateName_eq_self hsegment b.name)]
    exact ih hrest _

/-! ### Blueprints of classes -/

namespace Schema

variable {schema : Schema} {b : Blueprint}

/-- The target of a class with ordinary names is found. -/
theorem OrdinaryNames.lookUpTarget_eq (hnames : schema.OrdinaryNames b.name)
    (h : Blueprint.ofSchema schema = .ok b) : Session.lookUpTarget b = .ok () := by
  obtain ⟨-, -, -, htarget, -, -, -⟩ := ofSchema_eq_ok h
  obtain ⟨top, rest, hmodule⟩ := Dotted.exists_segments_eq_cons schema.module
  have hsegments : Dotted.segments b.target = top :: (rest ++ Dotted.segments schema.qualname) := by
    rw [htarget, qualifiedName, Dotted.segments_append, hmodule, List.cons_append]
  have hvisible := hnames.visible
  rw [← htarget, hsegments] at hvisible
  obtain ⟨htop, hrest⟩ := List.forall_mem_cons.mp hvisible
  have hunhidden : (Session.ownGlobals b).find? top = none := by
    refine Table.find?_eq_none ?_
    have hnot := hnames.unhidden
    rw [Dotted.splitHead_fst hmodule] at hnot
    exact hnot
  have himported : (b.imports.any fun m => (Dotted.splitHead m).1 == top) = true :=
    List.any_eq_true.mpr ⟨schema.module, module_mem_imports h hnames.apart,
      beq_iff_eq.mpr (Dotted.splitHead_fst hmodule)⟩
  simp only [Session.lookUpTarget, hsegments, privateName_eq_self htop, hunhidden, himported,
    if_true]
  exact lookUpFrom_eq_ok hrest b _ _

/-- **The names inside the builder of a class with ordinary names agree.** -/
theorem orderly_of_ofSchema (h : Blueprint.ofSchema schema = .ok b)
    (hnames : schema.OrdinaryNames b.name) : b.Orderly := by
  obtain ⟨-, -, -, -, -, hmembers, -⟩ := ofSchema_eq_ok h
  have hplain : ∀ m ∈ b.members, m.name.toList.head? ≠ some '_' := by
    rw [hmembers]
    exact List.forall_mem_map.mpr hnames.plain
  have hnormal : ∀ m ∈ b.members, Text.normalForm m.name = m.name := by
    rw [hmembers]
    exact List.forall_mem_map.mpr hnames.normal
  have hmethods : ∀ m ∈ b.members, b.method m = m.name := by
    intro m hm
    rw [Blueprint.method, hnormal m hm]
    exact privateName_eq_self (isPrefixOf_of_head? (hplain m hm)) b.name
  refine ⟨?_, ?_, ?_, hmethods, ?_, ?_, hnames.lookUpTarget_eq h⟩
  · rw [hmembers, List.map_map]
    exact hnames.distinct
  · intro m hm
    exact privateName_eq_self (isPrefixOf_attribute (hplain m hm)) b.name
  · intro m hm
    rw [Blueprint.codeSlot, Member.attribute, Text.normalForm_underscore (hnormal m hm)]
    exact privateName_eq_self (isPrefixOf_attribute (hplain m hm)) b.name
  · intro m hm hbody
    rcases List.mem_append.mp hbody with hown | hmethod
    · have htwice : ∀ name ∈ ["__module__", "__doc__", "__slots__", "__init__"],
          "__".toList.isPrefixOf name.toList = true := by decide
      exact attribute_ne (hplain m hm) (htwice _ hown) rfl
    · -- Methods begin with no underscore, slots do.
      rw [Blueprint.methods, List.mem_eraseDups, List.mem_append] at hmethod
      have hfirst : m.attribute.toList.head? = some '_' := by
        rw [toList_attribute, List.head?_cons]
      rcases hmethod with hsetter | hbuild
      · obtain ⟨n, hn, hname⟩ := List.mem_map.mp hsetter
        rw [hmethods n hn] at hname
        exact hplain n hn (hname ▸ hfirst)
      · rw [List.mem_singleton.mp hbuild] at hfirst
        exact absurd hfirst (by decide)
  · intro m hm hcommon
    have htwice : ∀ name ∈ Session.commonSlots, "__".toList.isPrefixOf name.toList = true := by
      decide
    exact attribute_ne (hplain m hm) (htwice _ hcommon) rfl

end Schema
end FluentBuilder
